import RowAudit.Proofs.Formula.Soundness

/-!
# What is derived is read

A step is complete for a category of the grammar if it reads everything that is derived in this
category, provided that what comes next does not continue it (`Complete`). Signs have ranks for this
purpose: an operator continues the operands of its layer and of tighter ones, and an opening bracket
or a dot continues every operand (`Stops`). Together with soundness this makes the reader decide the
grammar (`Setting.parse_row_eq_ok_iff`).
-/

namespace RowAudit.Formula

/-! ## What continues a part of a formula -/

/-- How tightly a sign holds on to what comes before it. -/
def Sign.rank : Sign → Nat
  | openParen => 6
  | openBracket => 6
  | dot => 6
  | star => 5
  | slash => 5
  | percent => 5
  | plus => 4
  | minus => 4
  | equal => 3
  | notEqual => 3
  | less => 3
  | atMost => 3
  | greater => 3
  | atLeast => 3
  | and => 2
  | or => 1
  | not => 0
  | closeParen => 0
  | closeBracket => 0
  | comma => 0

/-- The rank of the loosest sign that continues a part of a formula. -/
def Category.rank : Category → Nat
  | layer .disjunction => 1
  | layer .conjunction => 2
  | layer .comparison => 3
  | layer .sum => 4
  | layer .product => 5
  | unary => 6
  | primary => 6
  | items => 6

/-- What comes next does not continue a part of a formula. -/
def Stops (c : Category) (p : Progress) : Prop :=
  ∀ sign, p.next? = some (.sign sign) → sign.rank < c.rank

section
variable {c : Category} {l : Layer} {p : Progress}

/-- Operands stand above the layer that they are joined in. -/
theorem Layer.rank_lt_operand (l : Layer) : (Category.layer l).rank < l.operand.rank := by
  cases l <;> decide

/-- A sign has the rank of the layer in which it joins. -/
theorem Joins.rank_eq {sign : Sign} {op : Operator} (h : Joins l sign op) :
    sign.rank = (Category.layer l).rank := by
  cases h <;> rfl

/-- What does not continue the operands of a layer does not continue one of them. -/
theorem Stops.operand (h : Stops (.layer l) p) : Stops l.operand p :=
  fun sign hsign => Nat.lt_trans (h sign hsign) l.rank_lt_operand

/-- Where a layer stops, none of its operators follows. -/
theorem Stops.operator?_eq_none (h : Stops (.layer l) p) : l.level.operator? p.next? = none := by
  cases hn : p.next? with
  | none => rfl
  | some t =>
    cases t with
    | sign sign =>
      cases hl : l.level sign with
      | none => exact hl
      | some op =>
        exact absurd (h sign hn) (Nat.not_lt.2 (Nat.le_of_eq (joins_iff.2 hl).rank_eq.symm))
    | _ => rfl

/-- At the end nothing continues. -/
theorem stops_end (operators : Nat) : Stops c ⟨[], operators⟩ := nofun

/-- What comes next is known. -/
theorem stops_of_next? {sign : Sign} (hp : p.next? = some (.sign sign)) (h : sign.rank < c.rank) :
    Stops c p := by
  intro sign' hsign'
  rw [hp] at hsign'
  cases hsign'
  exact h

end

/-- A step reads what is derived, up to what does not continue it. -/
def Complete (d : Nat) (c : Category) (x : Step Expr) : Prop :=
  ∀ ts e p q, Derives d c ts e → Takes ts p q → q.operators ≤ 256 → Stops c q → x.run p = .ok (e, q)

namespace Complete

variable {s : Setting} {d : Nat} {l : Layer} {x y : Step Expr}

/-- Nothing is derived too deep. -/
theorem of_depth_gt {c : Category} (h : 64 < d) : Complete d c x :=
  fun _ _ _ _ hderives => absurd hderives.depth_le (Nat.not_le.2 h)

/-- After the first operands of a layer its other ones are still to be read, and there are rounds
enough left for them. The induction is on the operands of the layer, from the last one on. -/
theorem chain_run (hx : Complete d l.operand x) {ts : List Token} {e : Expr}
    (h : Derives d (.layer l) ts e) {p q : Progress} (hts : Takes ts p q) (hq : q.operators ≤ 256)
    (hstops : Stops l.operand q) :
    ∃ fuel, q.tokens.length ≤ fuel ∧
      (s.chain l.level x).run p = (s.chainFrom l.level x fuel e).run q := by
  generalize hc : Category.layer l = c at h
  induction h generalizing q with
  | operand h _ =>
    cases hc
    refine ⟨q.tokens.length, Nat.le_refl _, ?_⟩
    rw [Setting.chain, run_bind_of_ok (hx _ _ _ _ h hts hq hstops), run_get_bind]
  | @binary d l' sign op ts us e f hjoins hleft hright ihleft _ =>
    cases hc
    obtain ⟨q₁, hts, hus⟩ := takes_append.1 hts
    obtain ⟨q₂, hsign, hus⟩ := takes_cons.1 hus
    have hq₂ : q₂.operators ≤ 256 := Nat.le_trans hus.operators_le hq
    have hq₁ : q₁.operators ≤ 256 := Nat.le_trans hsign.operators_le hq₂
    have hstops₁ : Stops l.operand q₁ := by
      refine stops_of_next? hsign.next? ?_
      rw [hjoins.rank_eq]
      exact l.rank_lt_operand
    obtain ⟨fuel, hfuel, hrun⟩ := ihleft hx hts hq₁ hstops₁ rfl
    have hlen₁ := hsign.length_le
    have hlen₂ := hus.length_le
    obtain ⟨fuel, rfl⟩ : ∃ n, fuel = n + 1 := ⟨fuel - 1, by simp at hlen₁; omega⟩
    refine ⟨fuel, by simp at hlen₁; omega, ?_⟩
    have hop : l.level.operator? q₁.next? = some op := by
      rw [hsign.next?]
      exact joins_iff.1 hjoins
    rw [hrun, Setting.chainFrom, run_peek_bind, hop]
    show (s.takeOperator >>= fun _ => x >>= fun right =>
      s.chainFrom l.level x fuel (.binary op e right)).run q₁ = _
    rw [run_bind_of_ok (run_takeOperator_of_takes hjoins.isOperator hsign hq₂),
      run_bind_of_ok (hx _ _ _ _ hright hus hq hstops)]
  | _ => cases hc

/-- A layer of operators over operands is complete if its operands are. -/
theorem chain (hx : Complete d l.operand x) : Complete d (.layer l) (s.chain l.level x) := by
  intro ts e p q h hts hq hstops
  obtain ⟨fuel, -, hrun⟩ := chain_run hx h hts hq hstops.operand
  rw [hrun]
  cases fuel with
  | zero => rfl
  | succ fuel =>
    rw [Setting.chainFrom, run_peek_bind, hstops.operator?_eq_none]
    rfl

/-- All layers are complete if the operands of the tightest one are. -/
theorem levels (hx : Complete d .unary x) : Complete d .expression (s.levels x) :=
  have hproduct : Complete d (.layer .product) (s.chain productLevel x) := hx.chain (l := .product)
  have hsum : Complete d (.layer .sum) (s.chain sumLevel _) := hproduct.chain (l := .sum)
  have hcomparison : Complete d (.layer .comparison) (s.chain comparisonLevel _) :=
    hsum.chain (l := .comparison)
  have hconjunction : Complete d (.layer .conjunction) (s.chain andLevel _) :=
    hcomparison.chain (l := .conjunction)
  hconjunction.chain (l := .disjunction)

/-- Items are read up to the sign that closes them, if there are rounds enough. -/
theorem itemsFrom (hx : Complete d .expression x) {closing : Sign} (hclosing : closing.Closes)
    {ts : List Token} {es : List Expr} (h : Derives d .items ts (.list es)) {p q r : Progress}
    (hts : Takes ts p q) (hclose : Takes [.sign closing] q r) (hr : r.operators ≤ 256) {fuel : Nat}
    (hfuel : ts.length < fuel) : (s.itemsFrom closing x fuel).run p = .ok (es, r) := by
  have hq : q.operators ≤ 256 := Nat.le_trans hclose.operators_le hr
  have hrank :
      closing.rank < Category.expression.rank := by rcases hclosing with rfl | rfl <;> decide
  have hop : (Token.sign closing).isOperator = false := by rcases hclosing with rfl | rfl <;> rfl
  have hcomma_ne : some (Token.sign .comma) ≠ some (.sign closing) := by
    rcases hclosing with rfl | rfl <;> decide
  generalize hc : Category.items = c at h
  generalize he : Expr.list es = e at h
  induction h generalizing p fuel es with
  | @item d ts e h _ =>
    cases he
    obtain ⟨fuel, rfl⟩ : ∃ n, fuel = n + 1 := ⟨fuel - 1, by omega⟩
    have hstops : Stops .expression q := stops_of_next? hclose.next? hrank
    have hitem : x.run p = .ok (e, q) := hx _ _ _ _ h hts hq hstops
    rw [Setting.itemsFrom, run_bind_of_ok hitem, StateT.run_bind, run_eat, if_pos hclose.next?,
      hclose.eq_tail hop]
    rfl
  | @itemComma d ts us e es' h _ _ ih =>
    cases he
    obtain ⟨fuel, rfl⟩ : ∃ n, fuel = n + 1 := ⟨fuel - 1, by omega⟩
    obtain ⟨q₁, hts, hus⟩ := takes_append.1 hts
    obtain ⟨q₂, hcomma, hus⟩ := takes_cons.1 hus
    have hq₁ : q₁.operators ≤ 256 :=
      Nat.le_trans hcomma.operators_le (Nat.le_trans hus.operators_le hq)
    have hstops : Stops .expression q₁ := stops_of_next? hcomma.next? (by decide)
    have hitem : x.run p = .ok (e, q₁) := hx _ _ _ _ h hts hq₁ hstops
    have heat : (eat closing).run q₁ = .ok (false, q₁) := by
      rw [run_eat, hcomma.next?, if_neg hcomma_ne]
    have hus_lt : us.length < fuel := by
      rw [List.length_append, List.length_cons] at hfuel
      omega
    have hrest := ih hx hus hus_lt rfl rfl
    rw [Setting.itemsFrom, run_bind_of_ok hitem, run_bind_of_ok heat, if_neg Bool.false_ne_true,
      run_bind_of_ok (run_expect_of_takes rfl hcomma), run_bind_of_ok hrest]
    rfl
  | _ => cases hc

/-- Items of lists and calls are read as the grammar has them. -/
theorem items (hx : Complete d .expression x) {closing : Sign} (hclosing : closing.Closes)
    {ts : List Token} {es : List Expr} (h : Derives d .items ts (.list es)) {p q : Progress}
    (hts : Takes (ts ++ [.sign closing]) p q) (hq : q.operators ≤ 256) :
    (s.items closing x).run p = .ok (es, q) := by
  obtain ⟨q₁, hts, hclose⟩ := takes_append.1 hts
  obtain ⟨t, us, rfl, ht⟩ := h.exists_cons
  have heat : (eat closing).run p = .ok (false, p) := by
    rw [run_eat, hts.next?, if_neg fun h => ht closing hclosing (Option.some.inj h)]
  rw [Setting.items, run_bind_of_ok heat, if_neg Bool.false_ne_true, run_get_bind]
  refine itemsFrom hx hclosing h hts hclose hq ?_
  have := hts.length_le
  omega

/-- A name is a column, or a literal, if what comes next does not continue it. -/
theorem afterName_of_stops {name : String} {position : Nat} {p : Progress} (h : Stops .primary p) :
    (s.afterName y name position).run p =
      .ok (match Setting.namedLiteral? name with
        | some c => .literal c
        | none => .column name, p) := by
  have hnext (sign : Sign) (hsign : sign.rank = 6) : p.next? ≠ some (.sign sign) := fun hp =>
    absurd (h sign hp) (by rw [hsign]; decide)
  unfold Setting.afterName
  cases Setting.namedLiteral? name with
  | some c => rfl
  | none =>
    rw [run_peek_bind, if_neg (hnext _ rfl), if_neg fun h => hnext _ rfl h.1,
      if_neg fun h => hnext _ rfl h.1]
    rfl

/-- An operand without signs in front is complete if what stands inside brackets is. -/
theorem primary (hy : Complete (d + 1) .expression y) : Complete d .primary (s.primary y) := by
  intro ts e p q h hts hq hstops
  obtain ⟨t, us, rfl, -⟩ := h.exists_cons
  obtain ⟨position, rest, hp, hus⟩ := hts
  obtain ⟨tokens, operators⟩ := p
  obtain rfl : tokens = ⟨t, position⟩ :: rest := hp
  rw [Setting.primary, run_get_bind]
  show (advance >>= _).run _ = _
  rw [run_advance_bind]
  cases h with
  | number v => cases hus; rfl
  | text v => cases hus; rfl
  | word _ hword =>
    cases hus
    exact (afterName_of_stops hstops).trans (by rw [namedLiteral?_eq_some_iff.2 hword])
  | column _ hname =>
    cases hus
    refine (afterName_of_stops hstops).trans ?_
    cases hn : Setting.namedLiteral? _ with
    | some c => exact absurd (namedLiteral?_eq_some_iff.1 hn) (hname c)
    | none => rfl
  | field name =>
    obtain ⟨_, _, rfl, _, _, rfl, rfl⟩ := hus
    rfl
  | quotedField name =>
    obtain ⟨_, _, rfl, _, _, rfl, _, _, rfl, rfl⟩ := hus
    rfl
  | @parens _ ts _ h =>
    obtain ⟨q₁, hts, hclose⟩ := takes_append.1 hus
    have hq₁ : q₁.operators ≤ 256 := Nat.le_trans hclose.operators_le hq
    have hinner : y.run ⟨rest, operators⟩ = .ok (e, q₁) :=
      hy _ _ _ _ h hts hq₁ (stops_of_next? hclose.next? (by decide))
    show (y >>= fun e => s.expect .closeParen >>= fun _ => pure e).run ⟨rest, operators⟩ = _
    rw [run_bind_of_ok hinner, run_bind_of_ok (run_expect_of_takes rfl hclose)]
    rfl
  | emptyList =>
    obtain ⟨_, _, rfl, rfl⟩ := hus
    rfl
  | list h =>
    obtain ⟨es, rfl⟩ := h.exists_list
    have hitems : (s.items .closeBracket y).run ⟨rest, operators⟩ = .ok (es, q) :=
      items hy (.inl rfl) h hus hq
    show (s.items .closeBracket y >>= fun es => pure (Expr.list es)).run ⟨rest, operators⟩ = _
    rw [run_bind_of_ok hitems]
    rfl

/-- An operand is complete if what stands after a sign in front and inside brackets is. -/
theorem unaryWith (hx : Complete (d + 1) .unary x) (hy : Complete (d + 1) .expression y) :
    Complete d .unary (s.unaryWith x y) := by
  intro ts e p q h hts hq hstops
  have hsign {sign : Sign} {us : List Token} {e : Expr} {node : Expr → Expr}
      (hts : Takes (.sign sign :: us) p q) (hop : (Token.sign sign).isOperator = true)
      (hnode : Setting.signed? (some (.sign sign)) = some node)
      (hder : Derives (d + 1) .unary us e) :
      (s.unaryWith x y).run p = .ok (node e, q) := by
    obtain ⟨q₁, htake, hus⟩ := takes_cons.1 hts
    have hq₁ : q₁.operators ≤ 256 := Nat.le_trans hus.operators_le hq
    have hoperand : x.run q₁ = .ok (e, q) := hx _ _ _ _ hder hus hq hstops
    rw [Setting.unaryWith, run_peek_bind, hts.next?, hnode]
    show (s.takeOperator >>= fun _ => x >>= fun e => pure (node e)).run p = _
    rw [run_bind_of_ok (run_takeOperator_of_takes hop htake hq₁), run_bind_of_ok hoperand]
    rfl
  cases h with
  | negate h => exact hsign hts rfl rfl h
  | not h => exact hsign hts rfl rfl h
  | plus h => exact hsign hts rfl rfl h
  | primary h =>
    have hnone : Setting.signed? p.next? = none := by
      cases h <;> rw [hts.next?] <;> rfl
    rw [Setting.unaryWith, run_peek_bind, hnone]
    exact primary hy _ _ _ _ h hts hq hstops

end Complete

/-- An operand with a number of levels left is complete on the level that leaves so many. -/
theorem Setting.unary_complete {s : Setting} {n d : Nat} (hd : d + n = 64) :
    Complete d .unary (s.unary n) := by
  induction n generalizing d with
  | zero => exact Complete.unaryWith (.of_depth_gt (by omega)) (.of_depth_gt (by omega))
  | succ n ih =>
    have hbelow : Complete (d + 1) .unary (s.unary n) := ih (by omega)
    exact hbelow.unaryWith hbelow.levels

/-- What the reader makes of a row of tokens: it accepts the formulas of the grammar with their
trees. -/
theorem Setting.parse_eq_ok_iff {s : Setting} (hs : s.dialect = .row) (tokens : List Spanned)
    (e : Expr) : s.parse tokens = .ok e ↔ IsFormula (tokens.map Spanned.token) e := by
  have hparse : s.parse tokens = .ok e ↔
      ∃ q, s.expression.run ⟨tokens, 0⟩ = .ok (e, q) ∧ q.tokens = [] := by
    unfold Setting.parse
    cases s.expression.run ⟨tokens, 0⟩ with
    | error fault => exact ⟨nofun, fun ⟨_, h, _⟩ => nomatch h⟩
    | ok eq =>
      obtain ⟨e', rest, operators⟩ := eq
      cases rest with
      | nil =>
        constructor
        · intro h
          cases h
          exact ⟨_, rfl, rfl⟩
        · rintro ⟨q, h, -⟩
          cases h
          rfl
      | cons t rest => exact ⟨nofun, fun ⟨_, h, hq⟩ => by cases h; cases hq⟩
  rw [hparse]
  constructor
  · rintro ⟨q, h, hq⟩
    have hsound : Sound 1 .expression s.expression := (Setting.unary_sound hs (n := 63) rfl).levels
    obtain ⟨hle, ts, hts, hderives⟩ := hsound ⟨tokens, 0⟩ q e h (Nat.zero_le _)
    obtain rfl := hts.eq_map hq
    refine ⟨hderives, ?_⟩
    rwa [hts.operators_eq, Nat.zero_add] at hle
  · rintro ⟨hderives, hle⟩
    have hcomplete : Complete 1 .expression s.expression :=
      (Setting.unary_complete (n := 63) rfl).levels
    refine ⟨_, hcomplete _ e _ _ hderives (takes_all tokens 0) ?_ (stops_end _), rfl⟩
    rwa [Nat.zero_add]

/-- A text is read in the row dialect if its tokens are a formula of the grammar. What finds fault
with filters is never asked. -/
theorem parseWith_row_eq_ok_iff {check : String → Except Fault Unit} {source : String} {e : Expr} :
    parseWith check .row source = .ok e ↔
      ∃ tokens, Token.scanFrom 0 (Body.ofText source .row).position
        (Body.ofText source .row).chars = .ok tokens ∧ IsFormula (tokens.map Spanned.token) e := by
  unfold parseWith
  dsimp only
  cases Token.scanFrom 0 (Body.ofText source .row).position (Body.ofText source .row).chars with
  | error fault => exact ⟨nofun, fun ⟨_, h, _⟩ => nomatch h⟩
  | ok tokens =>
    have hparse := Setting.parse_eq_ok_iff (s := ⟨.row, (Body.ofText source .row).position +
      Text.byteLength (Body.ofText source .row).chars, check⟩) rfl tokens e
    cases tokens with
    | nil =>
      refine ⟨nofun, fun ⟨_, h, hformula, _⟩ => ?_⟩
      cases h
      obtain ⟨t, us, hnil, -⟩ := hformula.exists_cons
      cases hnil
    | cons t tokens =>
      constructor
      · exact fun h => ⟨_, rfl, hparse.1 h⟩
      · rintro ⟨_, h, hformula⟩
        cases h
        exact hparse.2 hformula

/-- The reader decides the grammar of row formulas, and no row of tokens has two trees. -/
theorem Setting.parse_row_eq_ok_iff (stop : Nat) (checkFilter : String → Except Fault Unit) :
    (∀ tokens e, Setting.parse ⟨.row, stop, checkFilter⟩ tokens = .ok e ↔
      IsFormula (tokens.map Spanned.token) e) ∧
    ∀ ts e f, IsFormula ts e → IsFormula ts f → e = f := by
  have hiff (tokens : List Spanned) (e : Expr) :
      Setting.parse ⟨.row, stop, checkFilter⟩ tokens = .ok e ↔
        IsFormula (tokens.map Spanned.token) e :=
    Setting.parse_eq_ok_iff rfl tokens e
  refine ⟨hiff, fun ts e f he hf => ?_⟩
  have htokens : (ts.map fun t => (⟨t, 0⟩ : Spanned)).map Spanned.token = ts := by
    rw [List.map_map]
    exact List.map_id' ts
  rw [← htokens, ← hiff] at he hf
  exact Except.ok.inj (he.symm.trans hf)

end RowAudit.Formula
