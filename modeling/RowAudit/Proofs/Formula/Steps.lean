import RowAudit.Proofs.Formula.Grammar

/-!
# Steps of the reader

What the steps of the reader do to its progress. `Takes ts p q` says that reading has gone from `p`
to `q` over the tokens `ts` and has counted the operators among them; what two parts of a formula
take one after the other they take together (`takes_append`). The other lemmas say what a step that
succeeds has taken.
-/

namespace RowAudit.Formula

/-! ## Progress -/

/-- The next token of a progress. -/
def Progress.next? (p : Progress) : Option Token := p.tokens.head?.map Spanned.token

/-- Reading goes over tokens and counts the operators among them. -/
def Takes : List Token → Progress → Progress → Prop
  | [], p, q => p = q
  | t :: ts, p, q => ∃ position rest, p.tokens = ⟨t, position⟩ :: rest ∧
      Takes ts ⟨rest, p.operators + if t.isOperator then 1 else 0⟩ q

section
variable {p q r : Progress} {t : Token} {ts us : List Token}

@[simp] theorem takes_nil : Takes [] p q ↔ p = q := Iff.rfl

/-- Tokens in two parts are taken one part after the other. -/
theorem takes_append : Takes (ts ++ us) p r ↔ ∃ q, Takes ts p q ∧ Takes us q r := by
  induction ts generalizing p with
  | nil => exact ⟨fun h => ⟨p, rfl, h⟩, fun ⟨q, hq, h⟩ => hq ▸ h⟩
  | cons t ts ih =>
    constructor
    · rintro ⟨position, rest, hp, h⟩
      obtain ⟨q, hq, hr⟩ := ih.1 h
      exact ⟨q, ⟨position, rest, hp, hq⟩, hr⟩
    · rintro ⟨q, ⟨position, rest, hp, hq⟩, hr⟩
      exact ⟨position, rest, hp, ih.2 ⟨q, hq, hr⟩⟩

/-- The first token is taken first. -/
theorem takes_cons : Takes (t :: us) p r ↔ ∃ q, Takes [t] p q ∧ Takes us q r :=
  @takes_append p r [t] us

/-- What is taken first comes next. -/
theorem Takes.next? (h : Takes (t :: ts) p q) : p.next? = some t := by
  obtain ⟨position, rest, hp, -⟩ := h
  rw [Progress.next?, hp]
  rfl

/-- Operators are counted. -/
theorem Takes.operators_eq (h : Takes ts p q) :
    q.operators = p.operators + ts.countP Token.isOperator := by
  induction ts generalizing p with
  | nil => exact h ▸ rfl
  | cons t ts ih =>
    obtain ⟨position, rest, -, h⟩ := h
    rw [ih h, List.countP_cons]
    exact Nat.add_assoc .. |>.trans (by rw [Nat.add_comm (ite ..)])

/-- Taking tokens never gives operators back. -/
theorem Takes.operators_le (h : Takes ts p q) : p.operators ≤ q.operators := by
  rw [h.operators_eq]
  exact Nat.le_add_right _ _

/-- Taken tokens were there. -/
theorem Takes.length_le (h : Takes ts p q) : p.tokens.length = ts.length + q.tokens.length := by
  induction ts generalizing p with
  | nil => rw [takes_nil.1 h, List.length_nil, Nat.zero_add]
  | cons t ts ih =>
    obtain ⟨position, rest, hp, h⟩ := h
    have hrest : rest.length = ts.length + q.tokens.length := ih h
    rw [hp, List.length_cons, List.length_cons, hrest]
    omega

/-- Reading can go over all tokens that are left. -/
theorem takes_all (tokens : List Spanned) (operators : Nat) :
    Takes (tokens.map Spanned.token) ⟨tokens, operators⟩
      ⟨[], operators + (tokens.map Spanned.token).countP Token.isOperator⟩ := by
  induction tokens generalizing operators with
  | nil => rfl
  | cons t tokens ih =>
    refine ⟨t.position, tokens, rfl, ?_⟩
    have hcount : operators + ((t :: tokens).map Spanned.token).countP Token.isOperator =
        (operators + if t.token.isOperator then 1 else 0) +
          (tokens.map Spanned.token).countP Token.isOperator := by
      rw [List.map_cons, List.countP_cons]
      omega
    rw [hcount]
    exact ih _

/-- Reading that leaves nothing has gone over all tokens. -/
theorem Takes.eq_map (h : Takes ts p q) (hq : q.tokens = []) : ts = p.tokens.map Spanned.token := by
  induction ts generalizing p with
  | nil => rw [takes_nil.1 h, hq, List.map_nil]
  | cons t ts ih =>
    obtain ⟨position, rest, hp, h⟩ := h
    rw [hp, List.map_cons, ih h]

end

/-! ## Steps -/

section
variable {α β : Type} {s : Setting} {p q r : Progress}

/-- Steps in sequence succeed exactly if each one does where the one before it has stopped. -/
theorem run_bind_eq_ok {x : Step α} {f : α → Step β} {b : β} :
    (x >>= f).run p = .ok (b, r) ↔ ∃ a q, x.run p = .ok (a, q) ∧ (f a).run q = .ok (b, r) := by
  rw [StateT.run_bind]
  cases hx : x.run p with
  | error fault => exact ⟨nofun, fun ⟨_, _, h, _⟩ => nomatch h⟩
  | ok aq => exact ⟨fun h => ⟨aq.1, aq.2, rfl, h⟩, fun ⟨_, _, h, hf⟩ => by cases h; exact hf⟩

/-- After a step that succeeds, the next one starts where it has stopped. -/
theorem run_bind_of_ok {x : Step α} {f : α → Step β} {a : α} (h : x.run p = .ok (a, q)) :
    (x >>= f).run p = (f a).run q := by
  rw [StateT.run_bind, h]
  rfl

/-- Returning a value moves nothing. -/
theorem run_pure_eq_ok {a b : α} : (pure a : Step α).run p = .ok (b, q) ↔ a = b ∧ p = q := by
  show (Except.ok (a, p) : Except Fault _) = _ ↔ _
  rw [Except.ok.injEq, Prod.mk.injEq]

/-- A fault is no success. -/
theorem run_throw_ne_ok {fault : Fault} {a : α} : (throw fault : Step α).run p ≠ .ok (a, q) := nofun

/-- A mistake at the next token is no success. -/
theorem run_failHere_ne_ok {flaw : Flaw} {a : α} : (s.failHere flaw : Step α).run p ≠ .ok (a, q) :=
  nofun

/-- After a look ahead, reading goes on from the same place. -/
theorem run_peek_bind {f : Option Token → Step β} : (peek >>= f).run p = (f p.next?).run p := rfl

/-- After a look at the progress, reading goes on from the same place. -/
theorem run_get_bind {f : Progress → Step β} : (get >>= f).run p = (f p).run p := rfl

/-- Going on drops the next token. -/
theorem run_advance_bind {f : Unit → Step β} :
    (advance >>= f).run p = (f ()).run ⟨p.tokens.tail, p.operators⟩ := rfl

/-- Taking a token that is no operator goes over it. -/
theorem takes_advance {t : Token} (h : p.next? = some t) (ht : t.isOperator = false) :
    Takes [t] p ⟨p.tokens.tail, p.operators⟩ := by
  obtain ⟨tokens, operators⟩ := p
  cases tokens with
  | nil => cases h
  | cons u rest =>
    obtain rfl : u.token = t := Option.some.inj h
    exact ⟨u.position, rest, rfl, by simp [ht]⟩

/-- What is left after a token that is no operator. -/
theorem Takes.eq_tail {t : Token} (h : Takes [t] p q) (ht : t.isOperator = false) :
    q = ⟨p.tokens.tail, p.operators⟩ := by
  obtain ⟨position, rest, hp, h⟩ := h
  rw [ht, takes_nil] at h
  rw [← h, hp]
  rfl

/-- A sign is eaten if it is the next token, and otherwise nothing happens. -/
theorem run_eat (sign : Sign) :
    (eat sign).run p =
      if p.next? = some (.sign sign) then .ok (true, ⟨p.tokens.tail, p.operators⟩)
      else .ok (false, p) := by
  rw [eat, run_peek_bind]
  split <;> rfl

/-- A sign that must come next has come. -/
theorem takes_of_run_expect {sign : Sign} {u : Unit} (hsign : (Token.sign sign).isOperator = false)
    (h : (s.expect sign).run p = .ok (u, q)) : Takes [.sign sign] p q := by
  obtain ⟨ate, p', hate, h⟩ := run_bind_eq_ok.1 h
  rw [run_eat] at hate
  split at hate
  · next hnext =>
    cases hate
    obtain ⟨-, rfl⟩ := run_pure_eq_ok.1 h
    exact takes_advance hnext hsign
  · cases hate
    exact absurd h run_failHere_ne_ok

/-- A sign that is the next token is read where it has to be there. -/
theorem run_expect_of_takes {sign : Sign} (hsign : (Token.sign sign).isOperator = false)
    (h : Takes [.sign sign] p q) : (s.expect sign).run p = .ok ((), q) := by
  have hnext := h.next?
  obtain ⟨position, rest, hp, hq⟩ := h
  rw [Setting.expect, StateT.run_bind, run_eat, if_pos hnext]
  rw [hsign, takes_nil] at hq
  rw [← hq, hp]
  rfl

/-- An operator that has been taken was not one too many. -/
theorem takes_of_run_takeOperator {t : Token} {u : Unit} (hnext : p.next? = some t)
    (ht : t.isOperator = true) (h : s.takeOperator.run p = .ok (u, q)) :
    Takes [t] p q ∧ q.operators ≤ 256 := by
  obtain ⟨tokens, operators⟩ := p
  cases tokens with
  | nil => cases hnext
  | cons v rest =>
    obtain rfl : v.token = t := Option.some.inj hnext
    rw [Setting.takeOperator, run_get_bind] at h
    split at h
    · next hlt =>
      cases h
      exact ⟨⟨v.position, rest, rfl, by simp [ht]⟩, hlt⟩
    · exact absurd h run_failHere_ne_ok

/-- An operator that is the next token is taken if there are any left. -/
theorem run_takeOperator_of_takes {t : Token} (ht : t.isOperator = true) (h : Takes [t] p q)
    (hq : q.operators ≤ 256) : s.takeOperator.run p = .ok ((), q) := by
  obtain ⟨position, rest, hp, h⟩ := h
  rw [ht, if_pos rfl, takes_nil] at h
  subst h
  obtain ⟨tokens, operators⟩ := p
  obtain rfl : tokens = ⟨t, position⟩ :: rest := hp
  have hlt : operators < maxOperators := hq
  rw [Setting.takeOperator, run_get_bind, if_pos hlt]
  rfl

end

end RowAudit.Formula
