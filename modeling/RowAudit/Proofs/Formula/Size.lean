import RowAudit.Proofs.Formula.Loops

/-!
# Trees are small

What the reader accepts can be walked over by recursion: a tree has no more than `maxOperators`
operators, and no more than `maxOperators + maxDepth` nodes lie between its root and a leaf. A bound
for the height needs both counters of the reader. Chains of operators nest to the left without going
a level deeper, but each of their nodes takes an operator; lists take no operators, but their items
are a level deeper. So a tree that is read with `n` levels left, of which `k` operators have been
taken, is at most `k + n` high (`Expr.Fits`). `Spends` says so of a step, for whatever it has taken;
each way of building steps out of steps keeps it, down to `Setting.spends_unary`, where a level is
left behind.

The main statement is `parse_bounded`: the bounds, and that reading comes to an end
(`Setting.Reads.loopsEnd`).
-/

namespace RowAudit.Formula

/-! ## The size of a tree -/

namespace Expr

mutual

/-- The number of operators in a tree. -/
def operatorCount : Expr → Nat
  | literal _ => 0
  | column _ => 0
  | list items => operatorCountItems items
  | negate e => operatorCount e + 1
  | not e => operatorCount e + 1
  | binary _ l r => operatorCount l + operatorCount r + 1
  | aggregate _ => 0

/-- `operatorCount` over the items of a list. -/
def operatorCountItems : List Expr → Nat
  | [] => 0
  | e :: rest => operatorCount e + operatorCountItems rest

end

mutual

/-- The number of nodes from the root of a tree down to its deepest leaf. -/
def height : Expr → Nat
  | literal _ => 1
  | column _ => 1
  | list items => heightItems items + 1
  | negate e => height e + 1
  | not e => height e + 1
  | binary _ l r => max (height l) (height r) + 1
  | aggregate _ => 1

/-- The height of the highest item of a list. -/
def heightItems : List Expr → Nat
  | [] => 0
  | e :: rest => max (height e) (heightItems rest)

end

end Expr

/-! ## Operators that are spent -/

/-- What a step reads has a property, given the number of operators that it has taken; it never
takes one too many. -/
def Spends {α : Type} (R : Nat → α → Prop) (x : Step α) : Prop :=
  ∀ p q a, x.run p = .ok (a, q) → ∃ k, q.operators = p.operators + k ∧ R k a ∧
    (p.operators ≤ maxOperators → q.operators ≤ maxOperators)

section
variable {α β : Type} {R : Nat → α → Prop} {Q : Nat → β → Prop} {x : Step α} {f : α → Step β}
  {s : Setting}

/-- Steps in sequence spend what both of them spend. -/
theorem Spends.bind (hx : Spends R x)
    (hf : ∀ k a, R k a → Spends (fun j b => Q (k + j) b) (f a)) : Spends Q (x >>= f) := by
  intro p r b h
  obtain ⟨a, q, ha, hb⟩ := run_bind_eq_ok.1 h
  obtain ⟨k, hq, hR, hle⟩ := hx p q a ha
  obtain ⟨j, hr, hQ, hle'⟩ := hf k a hR q r b hb
  exact ⟨k + j, by rw [hr, hq, Nat.add_assoc], hQ, fun hp => hle' (hle hp)⟩

/-- To return a value takes no operators. -/
theorem Spends.pure {a : α} (ha : R 0 a) : Spends R (Pure.pure a) := by
  intro p q b h
  obtain ⟨rfl, rfl⟩ := run_pure_eq_ok.1 h
  exact ⟨0, rfl, ha, id⟩

/-- What a step reads has every weaker property as well. -/
theorem Spends.mono {R' : Nat → α → Prop} (hx : Spends R x) (h : ∀ k a, R k a → R' k a) :
    Spends R' x := by
  intro p q a ha
  obtain ⟨k, hq, hR, hle⟩ := hx p q a ha
  exact ⟨k, hq, h k a hR, hle⟩

/-- A step after one that takes no operators. -/
theorem Spends.after (hx : Spends (fun k _ => k = 0) x) (hf : ∀ a, Spends Q (f a)) :
    Spends Q (x >>= f) := by
  refine hx.bind ?_
  rintro _ a rfl
  exact (hf a).mono fun k b hb => (Nat.zero_add k).symm ▸ hb

/-- A step that fails reads nothing. -/
theorem spends_throw {fault : Fault} : Spends R (throw fault) := fun _ _ _ h => nomatch h

/-- A step that finds fault reads nothing. -/
theorem spends_failHere {flaw : Flaw} : Spends R (s.failHere flaw) := fun _ _ _ h => nomatch h

/-- Looking ahead takes no operator. -/
theorem spends_peek : Spends (fun k _ => k = 0) peek := by
  rintro p q t ⟨⟩
  exact ⟨0, rfl, rfl, id⟩

/-- Looking at the progress takes no operator. -/
theorem spends_get : Spends (fun k _ => k = 0) (get : Step Progress) := by
  rintro p q r ⟨⟩
  exact ⟨0, rfl, rfl, id⟩

/-- Going on to the next token takes no operator. -/
theorem spends_advance : Spends (fun k _ => k = 0) advance := by
  rintro p q u ⟨⟩
  exact ⟨0, rfl, rfl, id⟩

/-- A sign that is there or not is eaten without taking an operator. -/
theorem spends_eat (sign : Sign) : Spends (fun k _ => k = 0) (eat sign) := by
  intro p q ate h
  rw [run_eat] at h
  split at h <;> cases h <;> exact ⟨0, rfl, rfl, id⟩

/-- A sign that has to be there is read without taking an operator. -/
theorem spends_expect (sign : Sign) : Spends (fun k _ => k = 0) (s.expect sign) := by
  refine (spends_eat sign).after fun ate => ?_
  split
  · exact .pure rfl
  · exact spends_peek.after fun _ => spends_failHere

/-- An operator is taken only while there are any left. -/
theorem spends_takeOperator : Spends (fun k _ => k = 1) s.takeOperator := by
  intro p q u h
  rw [Setting.takeOperator, run_get_bind] at h
  split at h
  · next hlt =>
    cases h
    exact ⟨1, rfl, rfl, fun _ => hlt⟩
  · cases h

end

/-! ## Trees within bounds -/

/-- A tree that so many operators allow: none of its operators comes from elsewhere, and it is no
higher than they and `n` more levels make it. -/
def Expr.Fits (n k : Nat) (e : Expr) : Prop := e.operatorCount ≤ k ∧ e.height ≤ k + n

/-- The same for the items of a list. -/
def Expr.ItemsFit (n k : Nat) (es : List Expr) : Prop :=
  operatorCountItems es ≤ k ∧ heightItems es ≤ k + n

section
variable {n j k : Nat} {e l r : Expr}

/-- More operators allow the same trees. -/
theorem Expr.Fits.mono {i : Nat} (h : e.Fits n k) (hk : k ≤ i) : e.Fits n i :=
  ⟨Nat.le_trans h.1 hk, Nat.le_trans h.2 (Nat.add_le_add_right hk n)⟩

/-- One more level does no harm. -/
theorem Expr.Fits.weaken (h : e.Fits n k) : e.Fits (n + 1) k :=
  ⟨h.1, Nat.le_succ_of_le h.2⟩

/-- A tree of one node, which is no operator. -/
def Expr.IsLeaf (e : Expr) : Prop := e.operatorCount = 0 ∧ e.height = 1

/-- A leaf needs one level. -/
theorem Expr.Fits.leaf (h : e.IsLeaf) : e.Fits (n + 1) k := by
  obtain ⟨hcount, hheight⟩ := h
  constructor
  · rw [hcount]
    exact Nat.zero_le k
  · rw [hheight]
    omega

/-- A tree with two operands takes their operators and one of its own. -/
theorem Expr.Fits.binary {op : Operator} (hl : l.Fits n j) (hr : r.Fits n k) :
    (Expr.binary op l r).Fits n (j + 1 + k) := by
  obtain ⟨hl, hl'⟩ := hl
  obtain ⟨hr, hr'⟩ := hr
  constructor
  · rw [Expr.operatorCount]
    omega
  · rw [Expr.height]
    omega

/-- A negation takes one operator for its level. -/
theorem Expr.Fits.negate (h : e.Fits n k) : (Expr.negate e).Fits n (1 + k) := by
  obtain ⟨h, h'⟩ := h
  constructor
  · rw [Expr.operatorCount]
    omega
  · rw [Expr.height]
    omega

/-- A logical negation takes one operator for its level. -/
theorem Expr.Fits.not (h : e.Fits n k) : (Expr.not e).Fits n (1 + k) := by
  obtain ⟨h, h'⟩ := h
  constructor
  · rw [Expr.operatorCount]
    omega
  · rw [Expr.height]
    omega

/-- No items need no operators. -/
theorem Expr.ItemsFit.nil : ItemsFit n 0 [] := ⟨Nat.le_refl 0, Nat.zero_le _⟩

/-- Items take the operators of the first one and of the rest. -/
theorem Expr.ItemsFit.cons {es : List Expr} (he : e.Fits n j) (hes : ItemsFit n k es) :
    ItemsFit n (j + k) (e :: es) := by
  obtain ⟨he, he'⟩ := he
  obtain ⟨hes, hes'⟩ := hes
  constructor
  · rw [operatorCountItems]
    omega
  · rw [heightItems]
    omega

/-- A list is one level higher than its items. -/
theorem Expr.ItemsFit.list {es : List Expr} (h : ItemsFit n k es) : (Expr.list es).Fits (n + 1) k :=
  ⟨h.1, Nat.succ_le_succ h.2⟩

end

namespace Setting

variable {s : Setting} {n : Nat} {x y : Step Expr}

section
variable {level : Level}

/-- Going on with a chain adds its operators to those of what stands on the left. -/
theorem spends_chainFrom (hx : Spends (Expr.Fits n) x) (fuel : Nat) {j : Nat} {left : Expr}
    (hleft : left.Fits n j) :
    Spends (fun k e => e.Fits n (j + k)) (s.chainFrom level x fuel left) := by
  induction fuel generalizing j left with
  | zero => exact .pure hleft
  | succ fuel ih =>
    rw [chainFrom]
    refine spends_peek.after fun t => ?_
    split
    · exact .pure hleft
    · refine spends_takeOperator.bind ?_
      rintro _ _ rfl
      refine hx.bind fun k right hright => (ih (hleft.binary hright)).mono fun i e he => ?_
      exact he.mono (by omega)

/-- A chain of operands fits if its operands do. -/
theorem spends_chain (hx : Spends (Expr.Fits n) x) : Spends (Expr.Fits n) (s.chain level x) := by
  exact hx.bind fun k left hleft => spends_get.after fun p => spends_chainFrom hx _ hleft

/-- The levels of operators fit if what they join does. -/
theorem spends_levels (hx : Spends (Expr.Fits n) x) : Spends (Expr.Fits n) (s.levels x) :=
  spends_chain (spends_chain (spends_chain (spends_chain (spends_chain hx))))

end

/-- Going on with items takes the operators of the items. -/
theorem spends_itemsFrom (hx : Spends (Expr.Fits n) x) (closing : Sign) (fuel : Nat) :
    Spends (Expr.ItemsFit n) (s.itemsFrom closing x fuel) := by
  induction fuel with
  | zero => exact spends_failHere
  | succ fuel ih =>
    rw [itemsFrom]
    refine hx.bind fun k e he => (spends_eat closing).after fun ate => ?_
    split
    · exact .pure (.cons he .nil)
    · refine (spends_expect .comma).after fun _ => ih.bind fun i es hes => .pure ?_
      exact .cons he hes

/-- Items up to a closing sign take the operators of the items. -/
theorem spends_items (hx : Spends (Expr.Fits n) x) (closing : Sign) :
    Spends (Expr.ItemsFit n) (s.items closing x) := by
  refine (spends_eat closing).after fun ate => ?_
  split
  · exact .pure .nil
  · exact spends_get.after fun p => spends_itemsFrom hx closing _

/-- A call is a leaf, whatever stands in its arguments. -/
theorem spends_call (hx : Spends (Expr.Fits n) x) (name : String) (position : Nat) :
    Spends (fun _ e => e.IsLeaf) (s.call x name position) := by
  unfold call
  split
  · exact spends_throw
  · split
    · exact spends_throw
    · refine (spends_items hx _).bind fun k es _ => ?_
      split
      · exact .pure ⟨rfl, rfl⟩
      · exact spends_throw

/-- What stands behind a name is a leaf. -/
theorem spends_afterName (hx : Spends (Expr.Fits n) x) (name : String) (position : Nat) :
    Spends (fun _ e => e.IsLeaf) (s.afterName x name position) := by
  unfold afterName
  split
  · exact .pure ⟨rfl, rfl⟩
  · refine spends_peek.after fun t => ?_
    split
    · exact spends_advance.after fun _ => spends_call hx name position
    split
    · refine spends_advance.after fun _ => spends_peek.after fun field => ?_
      split
      · exact spends_advance.after fun _ => .pure ⟨rfl, rfl⟩
      · exact spends_failHere
    split
    · refine spends_advance.after fun _ => spends_peek.after fun field => ?_
      split
      · exact spends_advance.after fun _ => (spends_expect _).after fun _ => .pure ⟨rfl, rfl⟩
      · exact spends_failHere
    · exact .pure ⟨rfl, rfl⟩

/-- A primary is one level higher than the expressions in it. -/
theorem spends_primary (hx : Spends (Expr.Fits n) x) :
    Spends (Expr.Fits (n + 1)) (s.primary x) := by
  refine spends_get.after fun p => ?_
  split
  · exact spends_failHere
  · refine spends_advance.after fun _ => ?_
    split
    · exact .pure (.leaf ⟨rfl, rfl⟩)
    · exact .pure (.leaf ⟨rfl, rfl⟩)
    · exact (spends_afterName hx _ _).mono fun _ _ he => .leaf he
    · refine hx.bind fun k e he => (spends_expect _).after fun _ => .pure ?_
      exact he.weaken
    · exact (spends_items hx _).bind fun k es hes => .pure hes.list
    · exact spends_throw

/-- An operand with signs is one level higher than what stands behind a sign. -/
theorem spends_unaryWith (hx : Spends (Expr.Fits n) x) (hy : Spends (Expr.Fits n) y) :
    Spends (Expr.Fits (n + 1)) (s.unaryWith x y) := by
  refine spends_peek.after fun t => ?_
  split
  · exact spends_primary hy
  · next node hnode =>
    have htake (hnode : ∀ k e, e.Fits n k → (node e).Fits n (1 + k)) :
        Spends (Expr.Fits (n + 1)) (s.takeOperator >>= fun _ => x >>= fun e => pure (node e)) := by
      refine spends_takeOperator.bind ?_
      rintro _ _ rfl
      exact hx.bind fun k e he => .pure (hnode k e he).weaken
    unfold signed? at hnode
    split at hnode <;> cases hnode
    · exact htake fun k e he => he.negate
    · exact htake fun k e he => he.not
    · exact htake fun k e he => he.mono (Nat.le_add_left k 1)

/-- Each level that is left adds one to the height. -/
theorem spends_unary (depth : Nat) : Spends (Expr.Fits (depth + 1)) (s.unary depth) := by
  induction depth with
  | zero => exact spends_unaryWith spends_failHere spends_failHere
  | succ depth ih => exact spends_unaryWith ih (spends_levels ih)

/-- A row of tokens is read as a tree within the bounds. -/
theorem fits_of_parse {tokens : List Spanned} {e : Expr} (h : s.parse tokens = .ok e) :
    e.operatorCount ≤ maxOperators ∧ e.height ≤ maxOperators + maxDepth := by
  have hread : Spends (Expr.Fits maxDepth) s.expression :=
    spends_levels (spends_unary (maxDepth - 1))
  unfold parse at h
  cases hrun : s.expression.run ⟨tokens, 0⟩ with
  | error fault => rw [hrun] at h; cases h
  | ok eq =>
    obtain ⟨e', q⟩ := eq
    obtain ⟨k, hq, ⟨hcount, hheight⟩, hle⟩ := hread _ q e' hrun
    have hk : k ≤ maxOperators := by
      have hle := hle (Nat.zero_le _)
      omega
    rw [hrun] at h
    have he : e' = e := by
      obtain ⟨rest, operators⟩ := q
      cases rest <;> cases h
      rfl
    subst he
    exact ⟨Nat.le_trans hcount hk, Nat.le_trans hheight (Nat.add_le_add_right hk _)⟩

end Setting

/-! ## Whole texts -/

/-- What is read from a text is read from a row of tokens. -/
theorem exists_parse_of_parseWith {check : String → Except Fault Unit} {dialect : Dialect}
    {source : String} {e : Expr} (h : parseWith check dialect source = .ok e) :
    ∃ s tokens, Setting.parse s tokens = .ok e := by
  unfold parseWith at h
  dsimp only at h
  cases hscan : Token.scanFrom 0 (Body.ofText source dialect).position
      (Body.ofText source dialect).chars with
  | error fault => rw [hscan] at h; cases h
  | ok tokens =>
    rw [hscan] at h
    cases tokens with
    | nil => cases h
    | cons t tokens => exact ⟨_, _, h⟩

/-- What is read has at most 256 operators and 320 nodes from its root to a leaf; and reading comes
to an end, with a tree within these bounds or with a fault: it goes at most 64 levels deep, and on
each level the loops over operators and over items do not outlast the tokens. -/
theorem parse_bounded (s : Setting) (tokens : List Spanned) (dialect : Dialect) (source : String) :
    (∀ e, parse dialect source = .ok e →
      e.operatorCount ≤ maxOperators ∧ e.height ≤ maxOperators + maxDepth) ∧
    ((∃ e, s.parse tokens = .ok e ∧ e.operatorCount ≤ maxOperators ∧
        e.height ≤ maxOperators + maxDepth) ∨ ∃ fault, s.parse tokens = .error fault) ∧
    ∀ x, s.Reads x → s.LoopsEnd x := by
  refine ⟨fun e h => ?_, ?_, fun x hx => hx.loopsEnd⟩
  · obtain ⟨s, tokens, hparse⟩ := exists_parse_of_parseWith h
    exact Setting.fits_of_parse hparse
  · cases hparse : s.parse tokens with
    | ok e => exact .inl ⟨e, rfl, Setting.fits_of_parse hparse⟩
    | error fault => exact .inr ⟨fault, rfl⟩

/-- Both bounds are reached by 256 operators between columns inside 63 brackets. -/
theorem parse_bounded_reached :
    let tokens : List Spanned := List.replicate 63 ⟨.sign .openBracket, 0⟩ ++ ⟨.name "x", 0⟩ ::
      (List.replicate 256 [⟨.sign .plus, 0⟩, ⟨.name "x", 0⟩]).flatten ++
      List.replicate 63 ⟨.sign .closeBracket, 0⟩
    let s : Setting := ⟨.row, 0, checkFilter⟩
    (∃ e, s.parse tokens = .ok e ∧ e.operatorCount = 256 ∧ e.height = 320 ∧
      maxOperators = 256 ∧ maxOperators + maxDepth = 320) ∧
    (∃ e, parse .table "[[[- -x, !(SUM('y', 'y > 1') >= 2)]], z + 1 + 2]" = .ok e ∧
      e.operatorCount = 6 ∧ e.height = 6 ∧
      e.operatorCount ≤ maxOperators ∧ e.height ≤ maxOperators + maxDepth) ∧
    s.Reads (s.unary 63) ∧ s.LoopsEnd (s.unary 63) := by
  intro tokens s
  obtain ⟨hbounds, -, hloops⟩ := parse_bounded s tokens .table
    "[[[- -x, !(SUM('y', 'y > 1') >= 2)]], z + 1 + 2]"
  refine ⟨?_, ?_, .unary 63, hloops _ (.unary 63)⟩
  · have hread : (match Setting.parse ⟨.row, 0, checkFilter⟩ (List.replicate 63
          ⟨.sign .openBracket, 0⟩ ++ ⟨.name "x", 0⟩ ::
          (List.replicate 256 [⟨.sign .plus, 0⟩, ⟨.name "x", 0⟩]).flatten ++
          List.replicate 63 ⟨.sign .closeBracket, 0⟩) with
        | .ok e => e.operatorCount == 256 && e.height == 320
        | .error _ => false) = true := by decide +kernel
    split at hread
    · next e he =>
      rw [Bool.and_eq_true, beq_iff_eq, beq_iff_eq] at hread
      exact ⟨e, he, hread.1, hread.2, rfl, rfl⟩
    · cases hread
  · have hread : (match parse .table "[[[- -x, !(SUM('y', 'y > 1') >= 2)]], z + 1 + 2]" with
        | .ok e => e.operatorCount == 6 && e.height == 6
        | .error _ => false) = true := by decide +kernel
    split at hread
    · next e he =>
      rw [Bool.and_eq_true, beq_iff_eq, beq_iff_eq] at hread
      exact ⟨e, he, hread.1, hread.2, hbounds e he⟩
    · cases hread

end RowAudit.Formula
