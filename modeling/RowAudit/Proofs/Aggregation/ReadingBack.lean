import RowAudit.Proofs.Formula.Phrase

/-!
# Call sites are read back

A call site is a formula of the table dialect. Its arguments are phrases (`furtherArguments`), so it
is scanned into a call of the function with these arguments (`parse_call`), and an aggregation is
rebuilt from them argument by argument (`aggregation_arguments`). What comes back has the function,
the columns and the filter text of the aggregation whose call site it was
(`Aggregation.parse_callSite`). A list of conditions comes back as the formula that spells it, and
is left out here.
-/

namespace RowAudit

open Formula Text

namespace Formula

/-! ## Calls -/

section
variable {s : Setting} {x : Step Expr} {l : Layer} {e : Expr} {p q : Progress}

/-- An operand that nothing continues is all of its layer. -/
theorem Setting.chain_run_of_stops (hx : x.run p = .ok (e, q)) (h : Stops (.layer l) q) :
    (s.chain l.level x).run p = .ok (e, q) := by
  rw [Setting.chain, run_bind_of_ok hx, run_get_bind]
  cases q.tokens.length with
  | zero => rfl
  | succ fuel =>
    rw [Setting.chainFrom, run_peek_bind, h.operator?_eq_none]
    rfl

/-- An operand that nothing continues is a whole expression. -/
theorem Setting.levels_run_of_stops (hx : x.run p = .ok (e, q)) (h : Stops .expression q) :
    (s.levels x).run p = .ok (e, q) :=
  have hconjunction := h.operand
  have hcomparison := hconjunction.operand
  have hsum := hcomparison.operand
  have hproduct := hsum.operand
  chain_run_of_stops (l := .disjunction) (chain_run_of_stops (l := .conjunction)
    (chain_run_of_stops (l := .comparison) (chain_run_of_stops (l := .sum)
      (chain_run_of_stops (l := .product) hx hproduct) hsum) hcomparison) hconjunction) h

/-- A function is meant by its name, which is no literal. -/
theorem named?_name (f : Aggregation.Function) :
    Aggregation.Function.named? f.name = some f ∧ Setting.namedLiteral? f.name = none := by
  obtain ⟨grouped, reducer⟩ := f
  cases grouped <;> cases reducer <;> decide +kernel

/-- An operand that is a call is read with the items that are its arguments. -/
theorem Setting.unary_run_call (hs : s.dialect = .table) {f : Aggregation.Function}
    {a : Aggregation} {es : List Expr} {n : Nat} (hp : p.next? = some (.sign .openParen))
    (hitems : (s.items .closeParen (s.levels (s.unary n))).run ⟨p.tokens.tail, p.operators⟩ =
      .ok (es, q)) (ha : s.aggregation f es = .ok a) (position : Nat) :
    (s.unary (n + 1)).run ⟨⟨.name f.name, position⟩ :: p.tokens, p.operators⟩ =
      .ok (.aggregate a, q) := by
  obtain ⟨hnamed, hliteral⟩ := named?_name f
  show (s.afterName (s.levels (s.unary n)) f.name position).run p = _
  unfold Setting.afterName
  rw [hliteral]
  dsimp only
  rw [run_peek_bind, if_pos hp, run_advance_bind, Setting.call, hs, hnamed]
  show (_ >>= _ : Step Expr).run _ = _
  rw [run_bind_of_ok hitems, ha]
  rfl

/-- A call with its arguments is read as the aggregation that is built from them. -/
theorem parse_call {source : String} {f : Aggregation.Function} {a : Aggregation}
    (arguments : Phrase 2 .items) {es : List Expr} (htree : arguments.tree = .list es)
    (hscans : Scans (Body.ofText source .table).chars
      (.name f.name :: .sign .openParen :: (arguments.tokens ++ [.sign .closeParen])))
    (hoperators : arguments.tokens.countP Token.isOperator ≤ 256)
    (ha : ∀ stop, Setting.aggregation ⟨.table, stop, checkFilter⟩ f es = .ok a) :
    parse .table source = .ok (.aggregate a) := by
  obtain ⟨spanned, hscan, hmap⟩ := hscans (Body.ofText source .table).position
  obtain ⟨⟨_, position⟩, tokens, rfl, rfl, htokens⟩ := List.map_eq_cons_iff.1 hmap
  have htakes : Takes (arguments.tokens ++ [.sign .closeParen]) ⟨tokens.tail, 0⟩
      ⟨[], arguments.tokens.countP Token.isOperator⟩ := by
    have hall := takes_all tokens.tail 0
    rw [List.map_tail, htokens, List.tail_cons, List.countP_append, Nat.zero_add] at hall
    exact hall
  have hnext : Progress.next? ⟨tokens, 0⟩ = some (.sign .openParen) := by
    rw [Progress.next?, ← List.head?_map, htokens]
    rfl
  have hlist : Derives 2 .items arguments.tokens (.list es) := htree ▸ arguments.derives
  have hparse (stop : Nat) : Setting.parse ⟨.table, stop, checkFilter⟩
      (⟨.name f.name, position⟩ :: tokens) = .ok (.aggregate a) := by
    generalize hs : (⟨.table, stop, checkFilter⟩ : Setting) = s
    have hitem : Complete 2 .expression (s.levels (s.unary 62)) :=
      (Setting.unary_complete rfl).levels
    have hitems := Complete.items (s := s) hitem (.inr rfl) hlist htakes hoperators
    have hunary := Setting.unary_run_call (hs ▸ rfl) hnext hitems (hs ▸ ha stop) position
    have hexpression : s.expression.run ⟨⟨.name f.name, position⟩ :: tokens, 0⟩ =
        .ok (.aggregate a, ⟨[], _⟩) := Setting.levels_run_of_stops hunary (stops_end _)
    rw [Setting.parse, hexpression]
    rfl
  unfold parse parseWith
  dsimp only
  rw [hscan]
  exact hparse _

end

end Formula

namespace Aggregation

/-! ## Arguments -/

/-- The filter among the arguments of a call. -/
def filterPhrase : Option String → Phrase 2 .primary
  | none => .null (by decide)
  | some source => .text source (by decide)

/-- The arguments after the list of groups. -/
def distinctArguments : Option String → List (Phrase 2 .expression)
  | none => []
  | some column => [(Phrase.text column (by decide)).expression]

/-- The arguments after the filter. -/
def groupArguments (groups : List String) (distinct : Option String) :
    List (Phrase 2 .expression) :=
  if groups = [] ∧ distinct = none then []
  else (Phrase.texts groups (by decide)).expression :: distinctArguments distinct

/-- The arguments after the column. -/
def furtherArguments (filter : Option String) (groups : List String) (distinct : Option String) :
    List (Phrase 2 .expression) :=
  if filter = none ∧ groups = [] ∧ distinct = none then []
  else (filterPhrase filter).expression :: groupArguments groups distinct

section
variable (filter : Option String) (groups : List String) (distinct : Option String)

/-- A list of groups is written as the phrase. -/
theorem texts_chars : (Phrase.texts groups (by decide : 2 + 1 ≤ 64)).chars = groupChars groups := by
  cases groups with
  | nil => rfl
  | cons g gs =>
    show '[' :: (quotedChars g ++ Phrase.furtherChars (gs.map _) ++ [']']) = _
    rw [groupChars, moreChars, Phrase.furtherChars, List.flatMap_map, List.append_assoc]
    rfl

/-- The arguments are written as the call site has them. -/
theorem furtherArguments_chars :
    Phrase.furtherChars (furtherArguments filter groups distinct) ++ [')'] =
      filterEnd filter groups distinct := by
  have hfilter : (filterPhrase filter).chars = filterChars filter := by cases filter <;> rfl
  have hdistinct : Phrase.furtherChars (distinctArguments distinct) ++ [')'] =
      distinctEnd distinct := by
    cases distinct with
    | none => rfl
    | some column =>
      show ',' :: ' ' :: quotedChars column ++ [] ++ [')'] = _
      rw [List.append_nil]
      rfl
  have hgroups : Phrase.furtherChars (groupArguments groups distinct) ++ [')'] =
      groupEnd groups distinct := by
    unfold groupArguments groupEnd
    split
    · rfl
    · show ',' :: ' ' :: (Phrase.texts groups _).chars ++
        Phrase.furtherChars (distinctArguments distinct) ++ [')'] = _
      rw [List.append_assoc, hdistinct, texts_chars]
      rfl
  unfold furtherArguments filterEnd
  split
  · rfl
  · show ',' :: ' ' :: (filterPhrase filter).chars ++
      Phrase.furtherChars (groupArguments groups distinct) ++ [')'] = _
    rw [List.append_assoc, hgroups, hfilter]
    rfl

/-- Among the arguments there is no operator. -/
theorem furtherArguments_operators :
    ∀ p ∈ furtherArguments filter groups distinct, p.operators = 0 := by
  have hfilter : (filterPhrase filter).operators = 0 := by cases filter <;> rfl
  have hdistinct : ∀ p ∈ distinctArguments distinct, p.operators = 0 := by
    cases distinct with
    | none => exact List.forall_mem_nil _
    | some column => exact List.forall_mem_singleton.2 rfl
  have hgroups : ∀ p ∈ groupArguments groups distinct, p.operators = 0 := by
    unfold groupArguments
    split
    · exact List.forall_mem_nil _
    · exact List.forall_mem_cons.2 ⟨Phrase.operators_texts groups _, hdistinct⟩
  unfold furtherArguments
  split
  · exact List.forall_mem_nil _
  · exact List.forall_mem_cons.2 ⟨hfilter, hgroups⟩

/-! ## What is built from the arguments -/

/-- A list of texts is read as a list of group columns. -/
theorem groupItems_texts :
    Setting.groupItems (groups.map fun g => .literal (.text g)) = .ok groups := by
  induction groups with
  | nil => rfl
  | cons g groups ih =>
    rw [List.map_cons, Setting.groupItems, ih]
    rfl

/-- The tree of a list of texts has them for its items. -/
theorem texts_tree : (Phrase.texts groups (by decide : 2 + 1 ≤ 64)).tree =
    .list (groups.map fun g => .literal (.text g)) := by
  cases groups with
  | nil => rfl
  | cons g groups =>
    show Expr.list (_ :: (groups.map _).map Phrase.tree) = _
    rw [List.map_map]
    rfl

/-- The trees of the arguments are taken for what they were written for. -/
theorem aggregation_arguments {s : Setting} {f : Function} {column : String}
    (hfilter : ∀ source ∈ filter, isBlankText source = false ∧ s.checkFilter source = .ok ())
    (hdistinct : distinct ≠ some "") :
    s.aggregation f (.literal (.text column) ::
        (furtherArguments filter groups distinct).map Phrase.tree) =
      .ok { function := f, column, label := none, filter := filter.map .formula,
            groupColumns := groups, distinctColumn := distinct, handling := .all } := by
  have hfilter :
      s.filterArgument f (some (filterPhrase filter).tree) = .ok (filter.map .formula) := by
    cases filter with
    | none => rfl
    | some source =>
      obtain ⟨hblank, hcheck⟩ := hfilter source rfl
      show (if isBlankText source then _ else _) = _
      rw [hblank, if_neg Bool.false_ne_true, hcheck]
      rfl
  have hgroups : Setting.groupArgument (some (Phrase.texts groups (by decide : 2 + 1 ≤ 64)).tree) =
      .ok groups := by
    rw [texts_tree]
    exact groupItems_texts groups
  have hdistinct : Setting.distinctArgument ((distinctArguments distinct).map Phrase.tree)[0]? =
      .ok distinct := by
    cases distinct with
    | none => rfl
    | some name => exact if_neg fun h => hdistinct (congrArg some h)
  have hlength : ¬ 3 < (distinctArguments distinct).length + 1 + 1 := by
    cases distinct <;> simp [distinctArguments]
  unfold furtherArguments
  split
  · next h =>
    obtain ⟨rfl, rfl, rfl⟩ := h
    rfl
  · unfold groupArguments
    split
    · next h =>
      obtain ⟨rfl, rfl⟩ := h
      show (s.filterArgument f (some (filterPhrase filter).tree) >>= _) = _
      rw [hfilter]
      rfl
    · simp only [List.map_cons, Setting.aggregation, List.length_cons, List.length_map,
        if_neg hlength, List.getElem?_cons_zero, List.getElem?_cons_succ, Phrase.tree_expression,
        hfilter, hgroups, hdistinct]
      rfl

end

/-! ## Whole call sites -/

/-- A filter that is given as text, if at all, and can be read; and no distinct column without a
name. -/
structure Textual (a : Aggregation) : Prop where
  filter : ∀ f ∈ a.filter, ∃ source, f = .formula source ∧
    (isBlankText source = true ∨ ∃ g, Formula.compile .row source = .ok g)
  distinctColumn : a.distinctColumn ≠ some ""

/-- A filter that can be read is not found fault with. -/
theorem checkFilter_of_compile {source : String} {g : Formula}
    (h : Formula.compile .row source = .ok g) : checkFilter source = .ok () := by
  unfold Formula.compile at h
  cases hparse : parse .row source with
  | error fault => rw [hparse] at h; cases h
  | ok e =>
    have hrow : parseRow source = .ok e :=
      parseWith_row_eq_ok_iff.2 (parseWith_row_eq_ok_iff.1 hparse)
    rw [checkFilter, hrow]
    rfl

namespace Textual

variable {a : Aggregation}

/-- A textual aggregation has no conditions. -/
theorem hasConditions (ha : a.Textual) : a.hasConditions = false := by
  unfold Aggregation.hasConditions
  split
  · next hf =>
    obtain ⟨source, hsource, -⟩ := ha.filter _ hf
    cases hsource
  · rfl

/-- The filter of a textual aggregation passes the check of the reader. -/
theorem checkFilter (ha : a.Textual) :
    ∀ source ∈ a.filterText, isBlankText source = false ∧ Formula.checkFilter source = .ok () := by
  intro source hsource
  obtain ⟨f, hf, rfl⟩ := Option.map_eq_some_iff.1 hsource
  obtain ⟨hf, hnotempty⟩ := Option.filter_eq_some_iff.1 hf
  obtain ⟨source, rfl, hblank | ⟨g, hg⟩⟩ := ha.filter f hf
  · simp [Filter.isEmpty, hblank] at hnotempty
  · exact ⟨by simpa [Filter.isEmpty, Filter.source] using hnotempty, checkFilter_of_compile hg⟩

end Textual

/-- The name of a function is a word. -/
theorem Function.exists_name_eq (f : Function) : ∃ c cs, f.name.toList = c :: cs ∧
    isNameStart c = true ∧ cs.all isNamePart = true ∧
    wordToken (String.ofList (c :: cs)) = .name f.name := by
  obtain ⟨grouped, reducer⟩ := f
  cases grouped <;> cases reducer <;> exact ⟨_, _, rfl, by decide +kernel⟩

/-- A call site is scanned into a call with its arguments. -/
theorem scans_callSite (a : Aggregation) : Scans (Body.ofText a.callSite .table).chars
    (.name a.function.name :: .sign .openParen ::
      ((Phrase.items (Phrase.text a.column (by decide)).expression
        (furtherArguments a.filterText a.groupColumns a.distinctColumn)).tokens ++
          [.sign .closeParen])) := by
  obtain ⟨c, cs, hname, hstart, hparts, hword⟩ := a.function.exists_name_eq
  generalize harguments : Phrase.items (Phrase.text a.column (by decide : 2 ≤ 64)).expression
    (furtherArguments a.filterText a.groupColumns a.distinctColumn) = arguments
  have hchars : a.callSite.toList = c :: (cs ++ '(' :: (arguments.chars ++ [')'])) := by
    rw [toList_callSite, hname, ← furtherArguments_chars, ← List.append_assoc, ← harguments]
    rfl
  have hlast : a.callSite.toList.getLast? = some ')' := by
    rw [hchars, ← List.cons_append, ← List.cons_append, ← List.append_assoc, List.getLast?_concat]
  have hbody : (Body.ofText a.callSite .table).chars = a.callSite.toList := by
    refine Body.chars_ofText_table ?_ ?_
    · rw [hchars]
      rintro _ ⟨⟩
      exact isBlank_of_isNameStart hstart
    · rw [hlast]
      rintro _ ⟨⟩
      decide
  have hclose : Scans [')'] [.sign .closeParen] := Scans.nil.sign (by decide) rfl
  have hdelimits : Delimits [')'] := by
    rintro _ ⟨⟩
    decide
  have hopen : Scans ('(' :: (arguments.chars ++ [')']))
      (.sign .openParen :: (arguments.tokens ++ [.sign .closeParen])) :=
    (arguments.scans _ _ hdelimits hclose).sign (by decide) rfl
  have hnot : ∀ r ∈ ('(' :: (arguments.chars ++ [')'])).head?, isNamePart r = false := by
    rintro _ ⟨⟩
    decide +kernel
  rw [hbody, hchars, ← hword]
  exact hopen.word hstart hparts hnot

/-- Filter text that is not blank is kept. -/
theorem filterText_of_formula {a : Aggregation} {filter : Option String}
    (ha : a.filter = filter.map .formula) (h : ∀ source ∈ filter, isBlankText source = false) :
    a.filterText = filter := by
  rw [filterText, ha]
  cases filter with
  | none => rfl
  | some source => simp [Option.filter, Filter.isEmpty, Filter.source, h source rfl]

/-- A call site is read as the aggregation it was written for, without the label and with the filter
as text. So it keeps its call site, and no other aggregation with this call site has another
value. -/
theorem parse_callSite {a : Aggregation} (ha : a.Textual) :
    ∃ b : Aggregation, parse .table a.callSite = .ok (.aggregate b) ∧
      b = { function := a.function, column := a.column, label := none,
            filter := a.filterText.map .formula, groupColumns := a.groupColumns,
            distinctColumn := a.distinctColumn, handling := .all } ∧
      b.callSite = a.callSite ∧
      ∀ c : Aggregation, c.Textual → c.callSite = a.callSite →
        ∀ rows, c.compute rows = a.compute rows := by
  refine ⟨_, ?_, rfl, ?_, fun c hc h rows =>
    compute_eq_of_callSite_eq hc.hasConditions ha.hasConditions h rows⟩
  · refine parse_call _ rfl (scans_callSite a) ?_ fun stop =>
      aggregation_arguments a.filterText a.groupColumns a.distinctColumn ha.checkFilter
        ha.distinctColumn
    show (Phrase.items _ _).operators ≤ 256
    rw [Phrase.operators_items,
      Phrase.operators_further (furtherArguments_operators _ _ _)]
    exact Nat.zero_le _
  · refine callSite_eq_iff.2 ⟨rfl, rfl, ?_, rfl, rfl⟩
    exact filterText_of_formula rfl fun source hsource => (ha.checkFilter source hsource).1

/-- An aggregation whose texts are full of quotes, backslashes, brackets and line breaks. -/
def awkward : Aggregation where
  function := ⟨true, .sum⟩
  column := "a\"b\\\n, ü"
  label := some "total"
  filter := some (.formula " row[\"x]\"] > 1; ")
  groupColumns := ["g,h", "[k\\"]
  distinctColumn := some "(\""

/-- The call site of `awkward` is read as it was meant. -/
theorem parse_callSite_awkward :
    ∃ b : Aggregation, parse .table awkward.callSite = .ok (.aggregate b) ∧
      b.column = "a\"b\\\n, ü" ∧ b.groupColumns = ["g,h", "[k\\"] ∧
      b.filterText = some " row[\"x]\"] > 1; " ∧ b.distinctColumn = some "(\"" ∧
        b.label = none := by
  have hfilter : ∃ g, Formula.compile .row " row[\"x]\"] > 1; " = .ok g := by
    cases h : Formula.compile .row " row[\"x]\"] > 1; " with
    | ok g => exact ⟨g, rfl⟩
    | error fault =>
      have hok : (Formula.compile .row " row[\"x]\"] > 1; ").isOk = true := by decide +kernel
      rw [h] at hok
      cases hok
  have htextual : awkward.Textual := by
    refine ⟨?_, by decide⟩
    rintro _ ⟨⟩
    exact ⟨_, rfl, .inr hfilter⟩
  obtain ⟨b, hparse, rfl, -⟩ := parse_callSite htextual
  exact ⟨_, hparse, rfl, rfl, rfl, rfl, rfl⟩

end Aggregation

end RowAudit
