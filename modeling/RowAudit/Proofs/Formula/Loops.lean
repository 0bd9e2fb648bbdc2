import RowAudit.Proofs.Formula.Faults

/-!
# Reading comes to an end

The reader has two loops, over the operators of a level and over the items of a list or of a call.
Its definition counts their rounds down from the number of tokens. Here they are stated without a
count (`Loops`, over `Setting.chainRound` and `Setting.itemRound`): each round fails, stops or goes
on. A round that goes on has taken a token, and no step puts tokens back
(`Setting.Reads.length_le`), so that the loops end by themselves, within a round for each token and
one more, and with the results of the reader (`Setting.Reads.loopsEnd`). Reading never stops because
it has counted down.
-/

namespace RowAudit.Formula

/-! ## Loops -/

/-- A loop ends after a number of rounds. Each round fails, stops with a result, or goes on with a
new state. -/
inductive Loops {σ α : Type} (round : σ → Step (σ ⊕ α)) :
    Nat → σ → Progress → Except Fault (α × Progress) → Prop
  | fail {a : σ} {p : Progress} {fault : Fault} : (round a).run p = .error fault →
      Loops round 1 a p (.error fault)
  | stop {a : σ} {b : α} {p q : Progress} : (round a).run p = .ok (.inr b, q) →
      Loops round 1 a p (.ok (b, q))
  | next {a a' : σ} {p q : Progress} {n : Nat} {r : Except Fault (α × Progress)} :
      (round a).run p = .ok (.inl a', q) → Loops round n a' q r → Loops round (n + 1) a p r

section
variable {σ α : Type} {round : σ → Step (σ ⊕ α)}

/-- A loop ends if it does after its first round, which takes a token if it is not the last one. -/
theorem exists_loops_of_round {rest : σ → Step α} {a : σ} {p : Progress}
    (hnext : ∀ a' q, (round a).run p = .ok (.inl a', q) → q.tokens.length < p.tokens.length ∧
      ∃ n ≤ q.tokens.length + 1, Loops round n a' q ((rest a').run q)) :
    ∃ n ≤ p.tokens.length + 1, Loops round n a p ((round a >>= Sum.elim rest pure).run p) := by
  rw [StateT.run_bind]
  cases hround : (round a).run p with
  | error fault => exact ⟨1, Nat.le_add_left .., .fail hround⟩
  | ok rq =>
    obtain ⟨r, q⟩ := rq
    cases r with
    | inr b => exact ⟨1, Nat.le_add_left .., .stop hround⟩
    | inl a' =>
      obtain ⟨hlt, n, hn, hloops⟩ := hnext a' q hround
      exact ⟨n + 1, by omega, .next hround hloops⟩

/-- A recursion that does the rounds of a loop ends as the loop does, if each round takes a token
and there are as many calls left as tokens. -/
theorem exists_loops {go : Nat → σ → Step α}
    (htakes : ∀ a p a' q, (round a).run p = .ok (.inl a', q) → q.tokens.length < p.tokens.length)
    (hzero : ∀ a p, p.tokens = [] →
      ∃ rest : σ → Step α, (go 0 a).run p = (round a >>= Sum.elim rest pure).run p)
    (hsucc : ∀ fuel a, go (fuel + 1) a = round a >>= Sum.elim (go fuel) pure)
    (fuel : Nat) (a : σ) {p : Progress} (hp : p.tokens.length ≤ fuel) :
    ∃ n ≤ p.tokens.length + 1, Loops round n a p ((go fuel a).run p) := by
  induction fuel generalizing a p with
  | zero =>
    have hnil : p.tokens = [] := List.eq_nil_of_length_eq_zero (Nat.le_zero.1 hp)
    obtain ⟨rest, hrest⟩ := hzero a p hnil
    rw [hrest]
    refine exists_loops_of_round fun a' q hround => ?_
    have hlt := htakes a p a' q hround
    rw [hnil] at hlt
    exact absurd hlt (Nat.not_lt_zero _)
  | succ fuel ih =>
    rw [hsucc]
    refine exists_loops_of_round fun a' q hround => ?_
    have hlt := htakes a p a' q hround
    exact ⟨hlt, ih a' (by omega)⟩

end

namespace Setting

/-- One round of the loop that reads operators of a level with their right operands. -/
def chainRound (s : Setting) (level : Level) (operand : Step Expr) (left : Expr) :
    Step (Expr ⊕ Expr) := do
  let t ← peek
  match level.operator? t with
  | none => pure (.inr left)
  | some op =>
    s.takeOperator
    let right ← operand
    pure (.inl (.binary op left right))

/-- One round of the loop that reads items, which are put behind those that have been read. -/
def itemRound (s : Setting) (closing : Sign) (item : Step Expr) (read : List Expr) :
    Step (List Expr ⊕ List Expr) := do
  let e ← item
  if ← eat closing then pure (.inr (read ++ [e]))
  else
    s.expect .comma
    pure (.inl (read ++ [e]))

/-- The items that have been read, and those that `itemsFrom` reads after them. -/
def itemsAfter (s : Setting) (closing : Sign) (item : Step Expr) (fuel : Nat) (read : List Expr) :
    Step (List Expr) := do
  let es ← s.itemsFrom closing item fuel
  pure (read ++ es)

/-- The loops over a step end by themselves, within a round for each token that is left and one
more, and the reader comes to their results. -/
def LoopsEnd (s : Setting) (x : Step Expr) : Prop :=
  (∀ (l : Layer) (left : Expr) (p : Progress), ∃ n ≤ p.tokens.length + 1,
    Loops (s.chainRound l.level x) n left p ((s.chainFrom l.level x p.tokens.length left).run p)) ∧
  ∀ (closing : Sign) (p : Progress), ∃ n ≤ p.tokens.length + 1,
    Loops (s.itemRound closing x) n [] p ((s.itemsFrom closing x (p.tokens.length + 1)).run p)

/-- The steps by which the reader reads operands, items and arguments. -/
inductive Reads (s : Setting) : Step Expr → Prop
  | tooDeep : Reads s (s.failHere .tooDeep)
  | unary (depth : Nat) : Reads s (s.unary depth)
  | chain {x : Step Expr} (l : Layer) : Reads s x → Reads s (s.chain l.level x)

variable {s : Setting} {x : Step Expr}

/-- The steps of the reader tell what they come to. -/
theorem Reads.tells (h : s.Reads x) (tokens : List Spanned) : s.Tells tokens (Quotes tokens) x := by
  induction h with
  | tooDeep => exact tells_failHere_tooDeep
  | unary depth => exact tells_unary depth
  | chain l _ ih => exact tells_chain ih

/-- No step adds tokens. -/
theorem Reads.length_le (h : s.Reads x) {p q : Progress} {e : Expr} (hrun : x.run p = .ok (e, q)) :
    q.tokens.length ≤ p.tokens.length := by
  have htells := h.tells p.tokens p List.suffix_rfl
  rw [hrun] at htells
  exact htells.1.length_le

/-- A chain goes on round by round. -/
theorem chainFrom_succ (level : Level) (fuel : Nat) (left : Expr) :
    s.chainFrom level x (fuel + 1) left =
      s.chainRound level x left >>= Sum.elim (s.chainFrom level x fuel) pure := by
  rw [chainFrom, chainRound, bind_assoc]
  refine bind_congr fun t => ?_
  cases level.operator? t <;> simp

/-- Items are read round by round. -/
theorem itemsAfter_succ (closing : Sign) (fuel : Nat) (read : List Expr) :
    s.itemsAfter closing x (fuel + 1) read =
      s.itemRound closing x read >>= Sum.elim (s.itemsAfter closing x fuel) pure := by
  rw [itemsAfter, itemsFrom, itemRound, bind_assoc, bind_assoc]
  refine bind_congr fun e => ?_
  rw [bind_assoc, bind_assoc]
  refine bind_congr fun ate => ?_
  split
  · rfl
  · simp only [itemsAfter, bind_assoc, pure_bind, Sum.elim_inl, List.append_assoc,
      List.singleton_append]

/-- The loops over the steps of the reader end by themselves. -/
theorem Reads.loopsEnd (h : s.Reads x) : s.LoopsEnd x := by
  constructor
  · intro l left p
    refine exists_loops ?_ ?_ (chainFrom_succ l.level) _ left (Nat.le_refl _)
    · intro left p left' q hround
      rw [chainRound, run_peek_bind] at hround
      split at hround
      · obtain ⟨⟨⟩, -⟩ := run_pure_eq_ok.1 hround
      · next op hop =>
        obtain ⟨t, hnext, ht⟩ := l.exists_of_operator? hop
        obtain ⟨_, p₁, htake, hround⟩ := run_bind_eq_ok.1 hround
        obtain ⟨right, p₂, hright, hround⟩ := run_bind_eq_ok.1 hround
        obtain ⟨-, rfl⟩ := run_pure_eq_ok.1 hround
        have htaken := (takes_of_run_takeOperator hnext ht htake).1.length_le
        have hle := h.length_le hright
        rw [List.length_singleton] at htaken
        omega
    · rintro left ⟨_, operators⟩ rfl
      exact ⟨fun _ => pure left, rfl⟩
  · intro closing p
    have hloops := @exists_loops _ _ (s.itemRound closing x)
      (fun fuel => s.itemsAfter closing x (fuel + 1)) ?_ ?_
      (fun fuel => itemsAfter_succ closing (fuel + 1)) p.tokens.length [] p (Nat.le_refl _)
    · simpa [itemsAfter] using hloops
    · intro read p read' q hround
      obtain ⟨e, p₁, he, hround⟩ := run_bind_eq_ok.1 hround
      obtain ⟨ate, p₂, hate, hround⟩ := run_bind_eq_ok.1 hround
      rw [run_eat] at hate
      split at hate <;> cases hate
      · obtain ⟨⟨⟩, -⟩ := run_pure_eq_ok.1 hround
      · obtain ⟨_, p₃, hcomma, hround⟩ := run_bind_eq_ok.1 hround
        obtain ⟨-, rfl⟩ := run_pure_eq_ok.1 hround
        have htaken := (takes_of_run_expect rfl hcomma).length_le
        have hle := h.length_le he
        rw [List.length_singleton] at htaken
        omega
    · intro read p _
      exact ⟨_, congrArg (StateT.run · p) (itemsAfter_succ closing 0 read)⟩

end Setting

end RowAudit.Formula
