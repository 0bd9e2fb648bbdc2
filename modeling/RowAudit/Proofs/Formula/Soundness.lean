import RowAudit.Proofs.Formula.Steps

/-!
# What is read is derived

A step is sound for a category of the grammar if whatever it reads has been derived in this category
from the tokens that it has taken (`Sound`). There is one lemma for each way in which the reader
builds steps out of steps; the whole reader is sound by induction on the number of levels that are
left (`Setting.unary_sound`).
-/

namespace RowAudit.Formula

/-- What a step reads is derived from what it takes, and it does not take too many operators. -/
def Sound (d : Nat) (c : Category) (x : Step Expr) : Prop :=
  ∀ p q e, x.run p = .ok (e, q) → p.operators ≤ 256 →
    q.operators ≤ 256 ∧ ∃ ts, Takes ts p q ∧ Derives d c ts e

/-- The operators that the reader knows in a layer. -/
def Layer.level : Layer → Level
  | disjunction => orLevel
  | conjunction => andLevel
  | comparison => comparisonLevel
  | sum => sumLevel
  | product => productLevel

/-- The reader and the grammar agree on the operators of a layer. -/
theorem joins_iff {l : Layer} {sign : Sign} {op : Operator} :
    Joins l sign op ↔ l.level sign = some op := by
  constructor
  · intro h
    cases h <;> rfl
  · intro h
    cases l <;> cases sign <;> cases h <;> constructor

/-- A sign that joins is an operator. -/
theorem Joins.isOperator {l : Layer} {sign : Sign} {op : Operator} (h : Joins l sign op) :
    (Token.sign sign).isOperator = true := by
  cases h <;> rfl

/-- The reader and the grammar agree on the words for literals. -/
theorem namedLiteral?_eq_some_iff {name : String} {c : Cell} :
    Setting.namedLiteral? name = some c ↔ (name, c) ∈ literalWords := by
  unfold Setting.namedLiteral?
  constructor
  · intro h
    have htrue : ∀ w ∈ ["true", "TRUE", "True"], (w, Cell.bool true) ∈ literalWords := by
      simp [literalWords]
    have hfalse : ∀ w ∈ ["false", "FALSE", "False"], (w, Cell.bool false) ∈ literalWords := by
      simp [literalWords]
    have hnull : ∀ w ∈ ["null", "NULL", "undefined"], (w, Cell.null) ∈ literalWords := by
      simp [literalWords]
    split at h
    · next hname =>
      cases h
      exact htrue name (List.contains_iff_mem.1 hname)
    · split at h
      · next hname =>
        cases h
        exact hfalse name (List.contains_iff_mem.1 hname)
      · split at h
        · next hname =>
          cases h
          exact hnull name (List.contains_iff_mem.1 hname)
        · cases h
  · intro h
    simp only [literalWords, List.mem_cons, Prod.mk.injEq, List.not_mem_nil, or_false] at h
    rcases h with ⟨rfl, rfl⟩ | ⟨rfl, rfl⟩ | ⟨rfl, rfl⟩ | ⟨rfl, rfl⟩ | ⟨rfl, rfl⟩ | ⟨rfl, rfl⟩ |
      ⟨rfl, rfl⟩ | ⟨rfl, rfl⟩ | ⟨rfl, rfl⟩ <;> rfl

namespace Sound

variable {s : Setting} {d : Nat} {l : Layer} {x y : Step Expr}

/-- A step that finds fault reads no tree. -/
theorem failHere {c : Category} {flaw : Flaw} : Sound d c (s.failHere flaw) :=
  fun _ _ _ h => absurd h run_failHere_ne_ok

/-- Operands that follow an operand of a layer are added to it from the left. -/
theorem chainFrom (hx : Sound d l.operand x) (fuel : Nat) {left e : Expr} {p₀ p q : Progress}
    {ts : List Token} (hts : Takes ts p₀ p) (hleft : Derives d (.layer l) ts left)
    (h : (s.chainFrom l.level x fuel left).run p = .ok (e, q)) (hp : p.operators ≤ 256) :
    q.operators ≤ 256 ∧ ∃ us, Takes us p₀ q ∧ Derives d (.layer l) us e := by
  induction fuel generalizing left p ts with
  | zero =>
    obtain ⟨rfl, rfl⟩ := run_pure_eq_ok.1 h
    exact ⟨hp, ts, hts, hleft⟩
  | succ fuel ih =>
    rw [Setting.chainFrom, run_peek_bind] at h
    split at h
    · obtain ⟨rfl, rfl⟩ := run_pure_eq_ok.1 h
      exact ⟨hp, ts, hts, hleft⟩
    · next op hop =>
      obtain ⟨sign, hsign, hlevel⟩ :
          ∃ sign, p.next? = some (.sign sign) ∧ l.level sign = some op := by
        cases hn : p.next? with
        | none => rw [hn] at hop; cases hop
        | some t => cases t <;> rw [hn] at hop <;> first | exact ⟨_, rfl, hop⟩ | cases hop
      have hjoins : Joins l sign op := joins_iff.2 hlevel
      obtain ⟨_, p₁, htake, h⟩ := run_bind_eq_ok.1 h
      obtain ⟨htakes, hp₁⟩ := takes_of_run_takeOperator hsign hjoins.isOperator htake
      obtain ⟨right, p₂, hright, h⟩ := run_bind_eq_ok.1 h
      obtain ⟨hp₂, us, hus, hderives⟩ := hx p₁ p₂ right hright hp₁
      have hall : Takes (ts ++ .sign sign :: us) p₀ p₂ :=
        takes_append.2 ⟨p, hts, takes_cons.2 ⟨p₁, htakes, hus⟩⟩
      exact ih hall (.binary hjoins hleft hderives) h hp₂

/-- A layer of operators over operands is sound if its operands are. -/
theorem chain (hx : Sound d l.operand x) : Sound d (.layer l) (s.chain l.level x) := by
  intro p q e h hp
  obtain ⟨left, p₁, hleft, h⟩ := run_bind_eq_ok.1 h
  obtain ⟨hp₁, ts, hts, hderives⟩ := hx p p₁ left hleft hp
  rw [run_get_bind] at h
  exact chainFrom hx _ hts (.operand hderives) h hp₁

/-- All layers are sound if the operands of the tightest one are. -/
theorem levels (hx : Sound d .unary x) : Sound d .expression (s.levels x) :=
  have hproduct : Sound d (.layer .product) (s.chain productLevel x) := hx.chain (l := .product)
  have hsum : Sound d (.layer .sum) (s.chain sumLevel _) := hproduct.chain (l := .sum)
  have hcomparison : Sound d (.layer .comparison) (s.chain comparisonLevel _) :=
    hsum.chain (l := .comparison)
  have hconjunction : Sound d (.layer .conjunction) (s.chain andLevel _) :=
    hcomparison.chain (l := .conjunction)
  hconjunction.chain (l := .disjunction)

/-- Items are read up to the bracket that closes the list. -/
theorem itemsFrom (hx : Sound d .expression x) (fuel : Nat) {es : List Expr} {p q : Progress}
    (h : (s.itemsFrom .closeBracket x fuel).run p = .ok (es, q)) (hp : p.operators ≤ 256) :
    q.operators ≤ 256 ∧
      ∃ ts, Takes (ts ++ [.sign .closeBracket]) p q ∧ Derives d .items ts (.list es) := by
  induction fuel generalizing p es with
  | zero => exact absurd h run_failHere_ne_ok
  | succ fuel ih =>
    obtain ⟨e, p₁, he, h⟩ := run_bind_eq_ok.1 h
    obtain ⟨hp₁, ts, hts, hderives⟩ := hx p p₁ e he hp
    obtain ⟨ate, p₂, hate, h⟩ := run_bind_eq_ok.1 h
    rw [run_eat] at hate
    split at hate
    · next hnext =>
      cases hate
      obtain ⟨rfl, rfl⟩ := run_pure_eq_ok.1 h
      exact ⟨hp₁, ts, takes_append.2 ⟨p₁, hts, takes_advance hnext rfl⟩, .item hderives⟩
    · cases hate
      obtain ⟨_, p₂, hcomma, h⟩ := run_bind_eq_ok.1 h
      have htakes : Takes [.sign .comma] p₁ p₂ := takes_of_run_expect rfl hcomma
      have hp₂ : p₂.operators ≤ 256 := by
        rw [htakes.operators_eq]
        exact hp₁
      obtain ⟨rest, p₃, hrest, h⟩ := run_bind_eq_ok.1 h
      obtain ⟨rfl, rfl⟩ := run_pure_eq_ok.1 h
      obtain ⟨hq, us, hus, hitems⟩ := ih hrest hp₂
      refine ⟨hq, ts ++ .sign .comma :: us, ?_, .itemComma hderives hitems⟩
      rw [List.append_assoc]
      exact takes_append.2 ⟨p₁, hts, takes_cons.2 ⟨p₂, htakes, hus⟩⟩

/-- Lists are read as the grammar has them. -/
theorem brackets (hd : d ≤ 64) (hx : Sound (d + 1) .expression x) {es : List Expr}
    {p₀ p q : Progress}
    (hopen : Takes [.sign .openBracket] p₀ p) (h : (s.items .closeBracket x).run p = .ok (es, q))
    (hp : p.operators ≤ 256) :
    q.operators ≤ 256 ∧ ∃ ts, Takes ts p₀ q ∧ Derives d .primary ts (.list es) := by
  obtain ⟨ate, p₁, hate, h⟩ := run_bind_eq_ok.1 h
  rw [run_eat] at hate
  split at hate
  · next hnext =>
    cases hate
    obtain ⟨rfl, rfl⟩ := run_pure_eq_ok.1 h
    exact ⟨hp, _, takes_cons.2
      ⟨p, hopen, takes_advance hnext rfl⟩, .emptyList hd⟩
  · cases hate
    rw [if_neg Bool.false_ne_true, run_get_bind] at h
    obtain ⟨hq, ts, hts, hitems⟩ := itemsFrom hx _ h hp
    exact ⟨hq, _, takes_cons.2 ⟨p, hopen, hts⟩, .list hitems⟩

/-- Names are read as the grammar has them, where no functions are called. -/
theorem afterName (hs : s.dialect = .row) (hd : d ≤ 64) {y : Step Expr} {name : String}
    {position : Nat} {e : Expr} {p₀ p q : Progress} (hname : Takes [.name name] p₀ p)
    (h : (s.afterName y name position).run p = .ok (e, q)) :
    q.operators = p.operators ∧ ∃ ts, Takes ts p₀ q ∧ Derives d .primary ts e := by
  unfold Setting.afterName at h
  split at h
  · next c hc =>
    obtain ⟨rfl, rfl⟩ := run_pure_eq_ok.1 h
    exact ⟨rfl, _, hname, .word hd (namedLiteral?_eq_some_iff.1 hc)⟩
  · next hnone =>
    have hcolumn : ∀ c, (name, c) ∉ literalWords := fun c hc => by
      rw [namedLiteral?_eq_some_iff.2 hc] at hnone
      cases hnone
    rw [run_peek_bind] at h
    by_cases hcall : p.next? = some (.sign .openParen)
    · -- A call, which the dialect of rows refuses.
      rw [if_pos hcall, run_advance_bind, Setting.call, hs] at h
      exact absurd h run_throw_ne_ok
    rw [if_neg hcall] at h
    by_cases hdot : p.next? = some (.sign .dot) ∧ name = "row"
    · obtain ⟨hsign, rfl⟩ := hdot
      rw [if_pos ⟨hsign, rfl⟩, run_advance_bind, run_peek_bind] at h
      split at h
      · next field hfield =>
        rw [run_advance_bind] at h
        obtain ⟨rfl, rfl⟩ := run_pure_eq_ok.1 h
        refine ⟨rfl, [.name "row", .sign .dot, .name field], ?_, .field field hd⟩
        exact takes_cons.2 ⟨p, hname, takes_cons.2
          ⟨_, takes_advance hsign rfl, takes_advance hfield rfl⟩⟩
      · exact absurd h run_failHere_ne_ok
    rw [if_neg hdot] at h
    by_cases hbracket : p.next? = some (.sign .openBracket) ∧ name = "row"
    · obtain ⟨hsign, rfl⟩ := hbracket
      rw [if_pos ⟨hsign, rfl⟩, run_advance_bind, run_peek_bind] at h
      split at h
      · next field hfield =>
        rw [run_advance_bind] at h
        obtain ⟨_, p₁, hclose, h⟩ := run_bind_eq_ok.1 h
        have hclose := takes_of_run_expect rfl hclose
        obtain ⟨rfl, rfl⟩ := run_pure_eq_ok.1 h
        refine ⟨hclose.operators_eq,
          [.name "row", .sign .openBracket, .text field, .sign .closeBracket], ?_,
          .quotedField field hd⟩
        exact takes_cons.2 ⟨p, hname,
          takes_cons.2 ⟨_, takes_advance hsign rfl,
            takes_cons.2 ⟨_, takes_advance hfield rfl, hclose⟩⟩⟩
      · exact absurd h run_failHere_ne_ok
    rw [if_neg hbracket] at h
    obtain ⟨rfl, rfl⟩ := run_pure_eq_ok.1 h
    exact ⟨rfl, _, hname, .column hd hcolumn⟩

/-- An operand without signs in front is sound if what stands inside brackets is. -/
theorem primary (hs : s.dialect = .row) (hd : d ≤ 64) (hy : Sound (d + 1) .expression y) :
    Sound d .primary (s.primary y) := by
  intro p q e h hp
  obtain ⟨tokens, operators⟩ := p
  rw [Setting.primary, run_get_bind] at h
  cases tokens with
  | nil => exact absurd h run_failHere_ne_ok
  | cons t rest =>
    obtain ⟨t, position⟩ := t
    have hfirst (ht : t.isOperator = false) :
        Takes [t] ⟨⟨t, position⟩ :: rest, operators⟩ ⟨rest, operators⟩ := takes_advance rfl ht
    rw [run_advance_bind] at h
    cases t with
    | number v =>
      obtain ⟨rfl, rfl⟩ := run_pure_eq_ok.1 h
      exact ⟨hp, _, hfirst rfl, .number v hd⟩
    | text v =>
      obtain ⟨rfl, rfl⟩ := run_pure_eq_ok.1 h
      exact ⟨hp, _, hfirst rfl, .text v hd⟩
    | name name =>
      obtain ⟨hq, hts⟩ := afterName hs hd (hfirst rfl) h
      exact ⟨hq.symm ▸ hp, hts⟩
    | sign sign =>
      cases sign with
      | openParen =>
        obtain ⟨inner, p₁, hinner, h⟩ := run_bind_eq_ok.1 h
        obtain ⟨hp₁, ts, hts, hderives⟩ := hy _ p₁ inner hinner hp
        obtain ⟨_, p₂, hclose, h⟩ := run_bind_eq_ok.1 h
        have hclose := takes_of_run_expect rfl hclose
        obtain ⟨rfl, rfl⟩ := run_pure_eq_ok.1 h
        refine ⟨?_, _, ?_, .parens hderives⟩
        · rw [hclose.operators_eq]
          exact hp₁
        · exact takes_cons.2
            ⟨_, hfirst rfl, takes_append.2 ⟨p₁, hts, hclose⟩⟩
      | openBracket =>
        obtain ⟨es, p₁, hes, h⟩ := run_bind_eq_ok.1 h
        obtain ⟨rfl, rfl⟩ := run_pure_eq_ok.1 h
        exact brackets hd hy (hfirst rfl) hes hp
      | _ => exact absurd h run_throw_ne_ok

/-- An operand is sound if what stands after a sign in front and inside brackets is. -/
theorem unaryWith (hs : s.dialect = .row) (hd : d ≤ 64) (hx : Sound (d + 1) .unary x)
    (hy : Sound (d + 1) .expression y) : Sound d .unary (s.unaryWith x y) := by
  intro p q e h hp
  rw [Setting.unaryWith, run_peek_bind] at h
  split at h
  · obtain ⟨hq, ts, hts, hderives⟩ := primary hs hd hy p q e h hp
    exact ⟨hq, ts, hts, .primary hderives⟩
  · next node hnode =>
    obtain ⟨_, p₁, htake, h⟩ := run_bind_eq_ok.1 h
    obtain ⟨operand, p₂, hoperand, h⟩ := run_bind_eq_ok.1 h
    obtain ⟨rfl, rfl⟩ := run_pure_eq_ok.1 h
    have hsign {sign : Sign} (hnext : p.next? = some (.sign sign))
        (hop : (Token.sign sign).isOperator = true)
        (hder : ∀ us, Derives (d + 1) .unary us operand →
          Derives d .unary (.sign sign :: us) (node operand)) :
        p₂.operators ≤ 256 ∧ ∃ ts, Takes ts p p₂ ∧ Derives d .unary ts (node operand) := by
      obtain ⟨htakes, hp₁⟩ := takes_of_run_takeOperator hnext hop htake
      obtain ⟨hp₂, us, hus, hderives⟩ := hx p₁ p₂ operand hoperand hp₁
      exact ⟨hp₂, _, takes_cons.2 ⟨p₁, htakes, hus⟩, hder us hderives⟩
    unfold Setting.signed? at hnode
    split at hnode
    · next hnext => cases hnode; exact hsign hnext rfl fun us h => .negate h
    · next hnext => cases hnode; exact hsign hnext rfl fun us h => .not h
    · next hnext => cases hnode; exact hsign hnext rfl fun us h => .plus h
    · cases hnode

end Sound

/-- An operand with a number of levels left is sound on the level that leaves so many. -/
theorem Setting.unary_sound {s : Setting} (hs : s.dialect = .row) {n d : Nat} (hd : d + n = 64) :
    Sound d .unary (s.unary n) := by
  induction n generalizing d with
  | zero => exact Sound.unaryWith hs (Nat.le_of_eq hd) .failHere .failHere
  | succ n ih =>
    have hbelow : Sound (d + 1) .unary (s.unary n) := ih (by omega)
    exact hbelow.unaryWith hs (by omega) hbelow.levels

end RowAudit.Formula
