import RowAudit.Proofs.Formula.Soundness

/-!
# Where the reader finds fault

What the reader finds fault with is at its next token, or at the end of the tokens (`Flaw.FoundAt`),
unless it is a fault of another kind than a mistake in the text, or that of a filter
(`Setting.Blames`). This holds wherever a step starts in the tokens. `Setting.Tells` says so of a
step, together with what it leaves when it succeeds: a rest of the tokens, and a result with a
property. The property that is carried along (`Setting.Quotes`) is that a literal text has been one
of the tokens; it is what makes the filter of a call one of them (`Setting.blames_of_parse`).
-/

namespace RowAudit.Formula

/-- Whether a mistake is one that is found at a token, or at the end of the tokens. -/
def Flaw.FoundAt : Flaw → Option Token → Prop
  | empty, next => next = none
  | stray t, next => next = some t
  | trailing t, next => next = some t
  | missing sign found, next => next = found ∧ found ≠ some (.sign sign)
  | unfinished, next => next = none
  | tooDeep, _ => True
  | tooLarge, next => ∃ t, next = some t ∧ t.isOperator = true
  | callRefused name, next => next = some (.name name)
  | fieldName, next => ∀ name, next ≠ some (.name name)
  | quotedFieldName, next => ∀ s, next ≠ some (.text s)
  | strayCharacter _, _ => False
  | badNumber _, _ => False
  | openText, _ => False
  | noted _, _ => False

/-- The operators of a layer are operators. -/
theorem Layer.exists_of_operator? {l : Layer} {next : Option Token} {op : Operator}
    (h : l.level.operator? next = some op) : ∃ t, next = some t ∧ t.isOperator = true := by
  unfold Level.operator? at h
  split at h
  · exact ⟨_, rfl, (joins_iff.2 h).isOperator⟩
  · cases h

namespace Setting

/-- What the reader can find fault with in a row of tokens. -/
inductive Blames (s : Setting) (tokens : List Spanned) : Fault → Prop
  /-- A mistake at the next token, or at the end. -/
  | malformed {flaw : Flaw} {p : Progress} : p.tokens <:+ tokens → flaw.FoundAt p.next? →
      Blames s tokens (.malformed flaw (s.position p))
  /-- A fault of a filter, which is one of the quoted texts. -/
  | filter {source : String} {position : Nat} {fault : Fault} : s.dialect = .table →
      ⟨.text source, position⟩ ∈ tokens → s.checkFilter source = .error fault →
        Blames s tokens fault
  | unknownFunction (name : String) : Blames s tokens (.unknownFunction name)
  | arity (function : String) (found : Nat) : Blames s tokens (.arity function found)
  | misuse (m : Misuse) : Blames s tokens (.misuse m)

variable (s : Setting) (tokens : List Spanned)

/-- What a step that starts at a progress comes to: it leaves a rest of the tokens and a result, or
it finds fault. -/
def Outcome {α : Type} (R : α → Prop) (p : Progress) : Except Fault (α × Progress) → Prop
  | .ok (a, q) => q.tokens <:+ p.tokens ∧ R a
  | .error fault => s.Blames tokens fault

/-- A step comes to such an outcome wherever it starts in the tokens. -/
def Tells {α : Type} (R : α → Prop) (x : Step α) : Prop :=
  ∀ p, p.tokens <:+ tokens → s.Outcome tokens R p (x.run p)

/-- A literal text has been one of the tokens. -/
def Quotes (tokens : List Spanned) (e : Expr) : Prop :=
  ∀ content, e = .literal (.text content) → ∃ position, ⟨.text content, position⟩ ∈ tokens

variable {s tokens}

section
variable {α β : Type} {R : α → Prop} {Q : β → Prop} {p q : Progress} {x : Step α} {f : α → Step β}

/-- What is left of a rest of the tokens is left of the tokens. -/
theorem Outcome.of_suffix (hq : q.tokens <:+ p.tokens) {r : Except Fault (α × Progress)}
    (h : s.Outcome tokens R q r) : s.Outcome tokens R p r := by
  cases r with
  | error fault => exact h
  | ok ar => exact ⟨h.1.trans hq, h.2⟩

/-- A step after another one. -/
theorem Outcome.bind (hx : s.Outcome tokens R p (x.run p))
    (hf : ∀ a q, x.run p = .ok (a, q) → q.tokens <:+ p.tokens → R a →
      s.Outcome tokens Q q ((f a).run q)) :
    s.Outcome tokens Q p ((x >>= f).run p) := by
  rw [StateT.run_bind]
  cases hrun : x.run p with
  | error fault => rwa [hrun] at hx
  | ok aq =>
    obtain ⟨a, q⟩ := aq
    rw [hrun] at hx
    exact (hf a q hrun hx.1 hx.2).of_suffix hx.1

/-- Steps in sequence tell what they come to. -/
theorem Tells.bind (hx : s.Tells tokens R x) (hf : ∀ a, R a → s.Tells tokens Q (f a)) :
    s.Tells tokens Q (x >>= f) := fun p hp =>
  (hx p hp).bind fun a q _ hq ha => hf a ha q (hq.trans hp)

/-- A step that returns a value leaves all tokens. -/
theorem Tells.pure {a : α} (ha : R a) : s.Tells tokens R (Pure.pure a) :=
  fun _ _ => ⟨List.suffix_rfl, ha⟩

/-- Failing at the next token. -/
theorem outcome_failHere {flaw : Flaw} (hp : p.tokens <:+ tokens) (hflaw : flaw.FoundAt p.next?) :
    s.Outcome tokens R p ((s.failHere flaw).run p) :=
  .malformed hp hflaw

/-- A token that is gone over is still one of the tokens. -/
theorem Outcome.of_tail {r : Except Fault (α × Progress)}
    (h : s.Outcome tokens R ⟨p.tokens.tail, p.operators⟩ r) : s.Outcome tokens R p r :=
  h.of_suffix (List.tail_suffix _)

/-- A step after a sign that may come next. -/
theorem outcome_eat_bind {sign : Sign} {f : Bool → Step β}
    (hyes : p.next? = some (.sign sign) →
      s.Outcome tokens Q ⟨p.tokens.tail, p.operators⟩ ((f true).run ⟨p.tokens.tail, p.operators⟩))
    (hno : s.Outcome tokens Q p ((f false).run p)) :
    s.Outcome tokens Q p ((eat sign >>= f).run p) := by
  rw [StateT.run_bind, run_eat]
  split
  · next hnext => exact (hyes hnext).of_tail
  · exact hno

/-- A sign that has to be there is passed over, or its absence is blamed on the next token. -/
theorem tells_expect (sign : Sign) : s.Tells tokens (fun _ => True) (s.expect sign) := by
  intro p hp
  unfold expect
  rw [StateT.run_bind, run_eat]
  split
  · exact ⟨List.tail_suffix _, trivial⟩
  · next hnext => exact outcome_failHere hp ⟨rfl, hnext⟩

/-- An operator is taken, or it is one too many. -/
theorem outcome_takeOperator {t : Token} (hp : p.tokens <:+ tokens) (hnext : p.next? = some t)
    (ht : t.isOperator = true) :
    s.Outcome tokens (fun _ => True) p (s.takeOperator.run p) := by
  rw [takeOperator, run_get_bind]
  split
  · exact ⟨List.tail_suffix _, trivial⟩
  · exact outcome_failHere hp ⟨t, hnext, ht⟩

end

section
variable {l : Layer} {x y : Step Expr}

/-- A tree with two operands is no literal text. -/
theorem quotes_binary {op : Operator} {left right : Expr} : Quotes tokens (.binary op left right) :=
  fun _ h => by cases h

/-- Going on with a chain tells what it comes to, since its operands do. -/
theorem outcome_chainFrom (hx : s.Tells tokens (Quotes tokens) x) (fuel : Nat) {left : Expr}
    (hleft : Quotes tokens left) :
    s.Tells tokens (Quotes tokens) (s.chainFrom l.level x fuel left) := by
  induction fuel generalizing left with
  | zero => exact .pure hleft
  | succ fuel ih =>
    intro p hp
    rw [chainFrom, run_peek_bind]
    split
    · exact Tells.pure hleft p hp
    · next op hop =>
      obtain ⟨t, hnext, ht⟩ := l.exists_of_operator? hop
      refine (outcome_takeOperator hp hnext ht).bind fun _ q _ hq _ => ?_
      exact hx.bind (fun right _ => ih quotes_binary) q (hq.trans hp)

/-- A chain of operands tells what it comes to. -/
theorem tells_chain (hx : s.Tells tokens (Quotes tokens) x) :
    s.Tells tokens (Quotes tokens) (s.chain l.level x) :=
  hx.bind fun _ hleft p hp => outcome_chainFrom hx p.tokens.length hleft p hp

/-- The levels of operators tell what they come to. -/
theorem tells_levels (hx : s.Tells tokens (Quotes tokens) x) :
    s.Tells tokens (Quotes tokens) (s.levels x) :=
  have hproduct : s.Tells tokens (Quotes tokens) (s.chain productLevel x) :=
    tells_chain (l := .product) hx
  have hsum : s.Tells tokens (Quotes tokens) (s.chain sumLevel _) :=
    tells_chain (l := .sum) hproduct
  have hcomparison : s.Tells tokens (Quotes tokens) (s.chain comparisonLevel _) :=
    tells_chain (l := .comparison) hsum
  have hconjunction : s.Tells tokens (Quotes tokens) (s.chain andLevel _) :=
    tells_chain (l := .conjunction) hcomparison
  tells_chain (l := .disjunction) hconjunction

/-- There are rounds enough for all items, so that reading never stops before the end. -/
theorem outcome_itemsFrom (hx : s.Tells tokens (Quotes tokens) x) (closing : Sign) (fuel : Nat)
    {p : Progress} (hp : p.tokens <:+ tokens) (hfuel : p.tokens.length < fuel) :
    s.Outcome tokens (fun es => ∀ e ∈ es, Quotes tokens e) p
      ((s.itemsFrom closing x fuel).run p) := by
  induction fuel generalizing p with
  | zero => exact absurd hfuel (Nat.not_lt_zero _)
  | succ fuel ih =>
    rw [itemsFrom]
    refine (hx p hp).bind fun e q _ hq he => outcome_eat_bind (fun _ => ?_) ?_
    · exact ⟨List.suffix_rfl, List.forall_mem_singleton.2 he⟩
    · refine (tells_expect .comma q (hq.trans hp)).bind fun _ r hcomma hr _ => ?_
      have htaken := (takes_of_run_expect rfl hcomma).length_le
      have hlength := hq.length_le
      refine (ih (hr.trans (hq.trans hp)) ?_).bind fun es _ _ _ hes => ?_
      · rw [List.length_singleton] at htaken
        omega
      · exact ⟨List.suffix_rfl, List.forall_mem_cons.2 ⟨he, hes⟩⟩

/-- Items up to a closing sign tell what they come to. -/
theorem tells_items (hx : s.Tells tokens (Quotes tokens) x) (closing : Sign) :
    s.Tells tokens (fun es => ∀ e ∈ es, Quotes tokens e) (s.items closing x) := by
  intro p hp
  refine outcome_eat_bind (fun _ => ⟨List.suffix_rfl, fun _ h => nomatch h⟩) ?_
  exact outcome_itemsFrom hx closing _ hp (Nat.lt_succ_self _)

/-- One of two computations fails if they fail one after the other. -/
theorem bind_eq_error {α β : Type} {x : Except Fault α} {f : α → Except Fault β} {fault : Fault}
    (h : (x >>= f) = .error fault) : x = .error fault ∨ ∃ a, x = .ok a ∧ f a = .error fault := by
  cases x with
  | error fault' =>
    cases h
    exact .inl rfl
  | ok a => exact .inr ⟨a, rfl, h⟩

/-- The fault of an argument that is no column is blamed. -/
theorem blames_columnArgument {f : Aggregation.Function} {e : Expr} {fault : Fault}
    (h : columnArgument f e = .error fault) : s.Blames tokens fault := by
  unfold columnArgument at h
  split at h <;> cases h
  exact .misuse _

/-- The fault of an argument that is no list of columns is blamed. -/
theorem blames_groupArgument {o : Option Expr} {fault : Fault}
    (h : groupArgument o = .error fault) :
    s.Blames tokens fault := by
  have hitems (es : List Expr) (h : groupItems es = .error fault) : s.Blames tokens fault := by
    induction es with
    | nil => cases h
    | cons e es ih =>
      unfold groupItems at h
      split at h
      · cases h
      · next name rest heq =>
        cases heq
        rcases bind_eq_error h with hrest | ⟨names, -, h⟩
        · exact ih hrest
        · cases h
      · cases h
        exact .misuse _
  unfold groupArgument at h
  split at h
  · cases h
  · cases h
  · cases h
  · exact hitems _ h
  · cases h
    exact .misuse _

/-- The fault of an argument that is no distinct column is blamed. -/
theorem blames_distinctArgument {o : Option Expr} {fault : Fault}
    (h : distinctArgument o = .error fault) : s.Blames tokens fault := by
  unfold distinctArgument at h
  split at h
  · cases h
  · cases h
  · split at h <;> cases h
    exact .misuse _
  · cases h
    exact .misuse _

/-- Only the filter of an aggregation is read as a formula of its own. -/
theorem blames_filterArgument (hs : s.dialect = .table) {f : Aggregation.Function} {o : Option Expr}
    (ho : ∀ e ∈ o, Quotes tokens e) {fault : Fault} (h : s.filterArgument f o = .error fault) :
    s.Blames tokens fault := by
  unfold filterArgument at h
  split at h
  · cases h
  · cases h
  · next source =>
    split at h
    · cases h
    · obtain ⟨position, hposition⟩ := ho _ rfl source rfl
      rcases bind_eq_error h with hcheck | ⟨u, -, h⟩
      · exact .filter hs hposition hcheck
      · cases h
  · cases h
    exact .misuse _

/-- The fault of an aggregation is that of one of its arguments, or of their number. -/
theorem blames_aggregation (hs : s.dialect = .table) {f : Aggregation.Function} {es : List Expr}
    (hes : ∀ e ∈ es, Quotes tokens e) {fault : Fault} (h : s.aggregation f es = .error fault) :
    s.Blames tokens fault := by
  cases es with
  | nil =>
    cases h
    exact .arity ..
  | cons column rest =>
    have hfilter (e : Expr) (he : e ∈ rest[0]?) : Quotes tokens e :=
      hes e (List.mem_cons_of_mem _ (List.mem_of_getElem? he))
    unfold aggregation at h
    dsimp only at h
    split at h
    · cases h
      exact .arity ..
    · rcases bind_eq_error h with hcolumn | ⟨name, -, h⟩
      · exact blames_columnArgument hcolumn
      rcases bind_eq_error h with hread | ⟨filter, -, h⟩
      · exact blames_filterArgument hs hfilter hread
      rcases bind_eq_error h with hgroups | ⟨groups, -, h⟩
      · exact blames_groupArgument hgroups
      rcases bind_eq_error h with hdistinct | ⟨distinct, -, h⟩
      · exact blames_distinctArgument hdistinct
      cases h

/-- A call tells what it comes to. -/
theorem tells_call (hx : s.Tells tokens (Quotes tokens) x) {name : String} {position : Nat}
    {rest : List Spanned} (hname : ⟨.name name, position⟩ :: rest <:+ tokens) :
    s.Tells tokens (Quotes tokens) (s.call x name position) := by
  unfold call
  split
  · exact fun _ _ => .malformed (p := ⟨_, 0⟩) hname rfl
  · next hs =>
    split
    · exact fun _ _ => .unknownFunction name
    · refine (tells_items hx _).bind fun es hes => ?_
      split
      · exact .pure fun _ h => by cases h
      · next fault hfault => exact fun _ _ => blames_aggregation hs hes hfault

/-- What stands behind a name tells what it comes to. -/
theorem tells_afterName (hx : s.Tells tokens (Quotes tokens) x) {name : String} {position : Nat}
    {rest : List Spanned} (hname : ⟨.name name, position⟩ :: rest <:+ tokens) :
    s.Tells tokens (Quotes tokens) (s.afterName x name position) := by
  intro p hp
  have htail : p.tokens.tail <:+ tokens := (List.tail_suffix _).trans hp
  have hcolumn (name : String) : Quotes tokens (.column name) := fun _ h => by cases h
  have hliteral {c : Cell} (hc : namedLiteral? name = some c) : Quotes tokens (.literal c) := by
    rintro content ⟨⟩
    simp [literalWords, namedLiteral?_eq_some_iff] at hc
  unfold afterName
  split
  · next c hc => exact Tells.pure (hliteral hc) p hp
  · rw [run_peek_bind]
    by_cases hcall : p.next? = some (.sign .openParen)
    · rw [if_pos hcall, run_advance_bind]
      exact (tells_call hx hname _ htail).of_tail
    rw [if_neg hcall]
    by_cases hdot : p.next? = some (.sign .dot) ∧ name = "row"
    · rw [if_pos hdot, run_advance_bind, run_peek_bind]
      refine Outcome.of_tail ?_
      split
      · rw [run_advance_bind]
        exact ⟨List.tail_suffix _, hcolumn _⟩
      · next hfield =>
        exact outcome_failHere htail fun field h => hfield field h
    rw [if_neg hdot]
    by_cases hbracket : p.next? = some (.sign .openBracket) ∧ name = "row"
    · rw [if_pos hbracket, run_advance_bind, run_peek_bind]
      refine Outcome.of_tail ?_
      split
      · next field _ =>
        rw [run_advance_bind]
        refine Outcome.of_tail ?_
        exact (tells_expect .closeBracket).bind (fun _ _ => .pure (hcolumn field)) _
          ((List.tail_suffix _).trans htail)
      · next hfield =>
        exact outcome_failHere htail fun field h => hfield field h
    rw [if_neg hbracket]
    exact Tells.pure (hcolumn name) p hp

/-- A primary tells what it comes to. -/
theorem tells_primary (hx : s.Tells tokens (Quotes tokens) x) :
    s.Tells tokens (Quotes tokens) (s.primary x) := by
  intro p hp
  obtain ⟨rest, operators⟩ := p
  rw [primary, run_get_bind]
  cases rest with
  | nil => exact outcome_failHere hp rfl
  | cons t rest =>
    obtain ⟨t, position⟩ := t
    have hrest : rest <:+ tokens := (List.suffix_cons _ _).trans hp
    rw [run_advance_bind]
    refine Outcome.of_tail ?_
    cases t with
    | number v => exact Tells.pure (fun _ h => by cases h) ⟨rest, operators⟩ hrest
    | text content =>
      refine Tells.pure (fun _ h => ?_) ⟨rest, operators⟩ hrest
      cases h
      exact ⟨position, hp.mem (List.mem_cons_self ..)⟩
    | name name => exact tells_afterName hx hp _ hrest
    | sign sign =>
      cases sign with
      | openParen =>
        exact hx.bind (fun e he => (tells_expect .closeParen).bind fun _ _ => .pure he) _ hrest
      | openBracket =>
        exact (tells_items hx _).bind (fun _ _ => .pure fun _ h => by cases h) _ hrest
      | _ => exact .malformed (p := ⟨_, operators⟩) hp rfl

/-- An operand with signs tells what it comes to. -/
theorem tells_unaryWith (hx : s.Tells tokens (Quotes tokens) x)
    (hy : s.Tells tokens (Quotes tokens) y) : s.Tells tokens (Quotes tokens) (s.unaryWith x y) := by
  intro p hp
  rw [unaryWith, run_peek_bind]
  split
  · exact tells_primary hy p hp
  · next node hnode =>
    have htake {t : Token} (hnext : p.next? = some t) (ht : t.isOperator = true)
        (hnode : ∀ e, Quotes tokens e → Quotes tokens (node e)) :
        s.Outcome tokens (Quotes tokens) p
          ((s.takeOperator >>= fun _ => x >>= fun e => pure (node e)).run p) :=
      (outcome_takeOperator hp hnext ht).bind fun _ q _ hq _ =>
        hx.bind (fun e he => .pure (hnode e he)) q (hq.trans hp)
    unfold signed? at hnode
    split at hnode
    · next hnext => cases hnode; exact htake hnext rfl fun _ _ _ h => by cases h
    · next hnext => cases hnode; exact htake hnext rfl fun _ _ _ h => by cases h
    · next hnext => cases hnode; exact htake hnext rfl fun _ he => he
    · cases hnode

end

/-- Too much depth is blamed on the next token. -/
theorem tells_failHere_tooDeep : s.Tells tokens (Quotes tokens) (s.failHere .tooDeep) :=
  fun _ hp => outcome_failHere hp trivial

/-- An operand of any depth tells what it comes to. -/
theorem tells_unary (depth : Nat) : s.Tells tokens (Quotes tokens) (s.unary depth) := by
  induction depth with
  | zero => exact tells_unaryWith tells_failHere_tooDeep tells_failHere_tooDeep
  | succ depth ih => exact tells_unaryWith ih (tells_levels ih)

/-- What reading all tokens finds fault with. -/
theorem blames_of_parse {fault : Fault} (h : s.parse tokens = .error fault) :
    s.Blames tokens fault := by
  have hread : s.Outcome tokens (Quotes tokens) ⟨tokens, 0⟩ (s.expression.run ⟨tokens, 0⟩) :=
    tells_levels (tells_unary 63) _ List.suffix_rfl
  unfold parse at h
  cases hrun : s.expression.run ⟨tokens, 0⟩ with
  | error fault' =>
    rw [hrun] at h hread
    cases h
    exact hread
  | ok eq =>
    obtain ⟨e, rest, operators⟩ := eq
    rw [hrun] at h hread
    cases rest with
    | nil => cases h
    | cons t rest =>
      cases h
      exact .malformed (p := ⟨t :: rest, operators⟩) hread.1 rfl

end Setting

end RowAudit.Formula
