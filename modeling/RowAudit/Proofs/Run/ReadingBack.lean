import RowAudit.Run.Basic
import RowAudit.Aggregation.Basic
import RowAudit.Proofs.Cell.ReadingBack
import RowAudit.Proofs.Json.Reading

/-!
# Inputs and aggregations are read back

What is read from the JSON of an input or of an aggregation is what has been written, with the cells
that their JSON stands for in place of the cells (`readBack`). Fields that are left out are read as
they were, since what is not written is the default of the reader. If the cells are plain, the cells
that are read are equal to those that were written.
-/

namespace RowAudit

open Document

/-! ## Words -/

/-- A kind of rules is read back. -/
theorem RuleKind.reads_toJson (k : RuleKind) : Reads RuleKind.read k.toJson k :=
  reads_choice (by cases k <;> rfl)

/-- A severity is read back. -/
theorem Severity.reads_toJson (s : Severity) : Reads Severity.read s.toJson s :=
  reads_choice (by cases s <;> rfl)

/-- A connective is read back. -/
theorem Connective.reads_toJson (c : Connective) : Reads Connective.read c.toJson c :=
  reads_choice (by cases c <;> rfl)

/-- A comparison is read back. -/
theorem Comparison.reads_toJson (c : Comparison) : Reads Comparison.read c.toJson c :=
  reads_choice (by cases c <;> rfl)

namespace Aggregation

/-- The connective of a filter is read back. -/
theorem Logic.reads_toJson (l : Logic) : Reads Logic.read l.toJson l :=
  reads_choice (by cases l <;> rfl)

/-- The handling of groups is read back. -/
theorem Handling.reads_toJson (h : Handling) : Reads Handling.read h.toJson h :=
  reads_choice (by cases h <;> rfl)

/-- An aggregate function is read back. -/
theorem Function.reads_toJson (f : Function) : Reads Function.read f.toJson f := by
  obtain ⟨grouped, reducer⟩ := f
  exact reads_choice (by cases grouped <;> cases reducer <;> rfl)

end Aggregation

/-! ## Cells and rows -/

namespace Cell

mutual

/-- The fields of all records stand in ascending order of their names, each name once. -/
def Ordered : Cell → Prop
  | null => True
  | bool _ => True
  | number _ => True
  | text _ => True
  | moment _ => True
  | list items => OrderedItems items
  | record fields => Fields.Ordered fields ∧ OrderedFields fields

/-- `Ordered` over the items of a list. -/
def OrderedItems : List Cell → Prop
  | [] => True
  | c :: rest => c.Ordered ∧ OrderedItems rest

/-- `Ordered` over the fields of a record. -/
def OrderedFields : List (String × Cell) → Prop
  | [] => True
  | (_, c) :: rest => c.Ordered ∧ OrderedFields rest

end

/-- A number is written without fields. -/
theorem ordered_numberJson (x : Float) : (numberJson x).Ordered := by
  unfold numberJson
  split
  · split <;> trivial
  · split <;> trivial

mutual

/-- A cell whose records are in order is written in order. -/
theorem ordered_toJson : ∀ {c : Cell}, c.Ordered → c.toJson.Ordered
  | null, _ => trivial
  | bool _, _ => trivial
  | number x, _ => ordered_numberJson x
  | text _, _ => trivial
  | moment _, _ => trivial
  | list _, h => orderedItems_itemsJson h
  | record fields, h => by
    refine ⟨?_, orderedFields_fieldsJson h.2⟩
    rw [fieldsJson_eq_map]
    exact h.1.map toJson

/-- Items whose records are in order are written in order. -/
theorem orderedItems_itemsJson : ∀ {items : List Cell}, OrderedItems items →
    Json.OrderedItems (itemsJson items)
  | [], _ => trivial
  | _ :: _, h => ⟨ordered_toJson h.1, orderedItems_itemsJson h.2⟩

/-- Fields whose records are in order are written in order. -/
theorem orderedFields_fieldsJson : ∀ {fields : List (String × Cell)}, OrderedFields fields →
    Json.OrderedFields (fieldsJson fields)
  | [], _ => trivial
  | _ :: _, h => ⟨ordered_toJson h.1, orderedFields_fieldsJson h.2⟩

end

/-- The cell that the JSON of a cell stands for. -/
def readBack (c : Cell) : Cell := ofJson c.toJson

/-- A cell is read back as the cell that its JSON stands for. -/
theorem reads_toJson {c : Cell} (h : c.Ordered) : Reads Cell.read c.toJson c.readBack :=
  (reads_json (ordered_toJson h)).map ofJson

end Cell

namespace Row

/-- A row with the cells that their JSON stands for. -/
def readBack (r : Row) : Row :=
  ⟨r.cells.map fun f => (f.1, f.2.readBack), r.ordered.map _⟩

/-- A row is made of its cells in any order. -/
theorem ofList_eq (r : Row) {pairs : List (String × Cell)} (h : pairs.Perm r.cells) :
    Row.ofList pairs = r := by
  obtain ⟨cells, ordered⟩ := r
  exact Row.mk.injEq .. ▸ Fields.ofList_eq h ordered

/-- A row is read back cell by cell. -/
theorem reads_toJson {r : Row} (h : ∀ f ∈ r.cells, f.2.Ordered) :
    Reads Row.read r.toJson r.readBack := by
  intro k hk
  rw [toJson, Cell.fieldsJson_eq_map] at hk
  obtain ⟨pairs, hpairs, hperm⟩ := exists_asPairs (fun f hf => Cell.reads_toJson (h f hf)) hk
  show (asPairs Cell.read (.ofJson k)).map ofList = .ok r.readBack
  rw [hpairs, ← ofList_eq r.readBack hperm]
  rfl

end Row

namespace Datasets

/-- Datasets with the cells that their JSON stands for. -/
def readBack (ds : Datasets) : Datasets :=
  ⟨ds.tables.map fun t => (t.1, t.2.map Row.readBack), ds.ordered.map _⟩

/-- Datasets are made of their tables in any order. -/
theorem ofList_eq (ds : Datasets) {pairs : List (String × List Row)} (h : pairs.Perm ds.tables) :
    Datasets.ofList pairs = ds := by
  obtain ⟨tables, ordered⟩ := ds
  exact Datasets.mk.injEq .. ▸ Fields.ofList_eq h ordered

/-- Datasets are read back row by row. -/
theorem reads_toJson {ds : Datasets} (h : ∀ t ∈ ds.tables, ∀ r ∈ t.2, ∀ f ∈ r.cells, f.2.Ordered) :
    Reads Datasets.read ds.toJson ds.readBack := by
  intro k hk
  have hrows : ∀ t ∈ ds.tables,
      Reads (asList Row.read) (.array (t.2.map Row.toJson)) (t.2.map Row.readBack) :=
    fun t ht => reads_list fun r hr => Row.reads_toJson (h t ht r hr)
  obtain ⟨pairs, hpairs, hperm⟩ :=
    exists_asPairs (f := fun rows : List Row => .array (rows.map Row.toJson)) hrows hk
  show (asPairs (asList Row.read) (.ofJson k)).map ofList = .ok ds.readBack
  rw [hpairs, ← ofList_eq ds.readBack hperm]
  rfl

end Datasets

/-! ## Rules -/

/-- The parameters and all objects in them are ordered. -/
def Parameters.Ordered (ps : Parameters) : Prop := Json.Ordered (.object ps)

/-- Parameters are read back as they are. -/
theorem Parameters.reads_toJson {ps : Parameters} (h : ps.Ordered) :
    Reads Parameters.read (.object ps) ps := by
  intro k hk
  have hfields : ∀ f ∈ ps, Reads asJson (id f.2) (id f.2) := fun f hf =>
    reads_json (Json.orderedFields_iff.1 h.2 f hf)
  have hps : ps.map (fun f => (f.1, id f.2)) = ps := List.map_id' ps
  obtain ⟨pairs, hpairs, hperm⟩ := exists_asPairs hfields (hps.symm ▸ hk)
  show (asPairs asJson (.ofJson k)).map Fields.ofList = .ok ps
  rw [hpairs, ← Fields.ofList_eq (hps ▸ hperm) h.1]
  rfl

namespace ColumnCondition

/-- The fields of a condition. -/
def members (c : ColumnCondition) (h : c.parameters.Ordered) : List Member :=
  [.given "column" (reads_text c.column), .given "ruleType" c.kind.reads_toJson,
   .given "parameters" (Parameters.reads_toJson h),
   .option "logicalOperator" Connective.read c.connective Connective.toJson id fun o _ =>
    ⟨o.reads_toJson, nofun⟩]

/-- A condition on a column is read back as it is. -/
theorem reads_toJson {c : ColumnCondition} (h : c.parameters.Ordered) :
    Reads ColumnCondition.read c.toJson c := by
  have hwritten : c.toJson = .object (written (c.members h)) := by
    simp [toJson, members]
  rw [hwritten]
  refine reads_record (c.members h) "ColumnCondition" (by simp [members]) ?_
  rintro rec ⟨hcolumn, hkind, hparameters, hconnective⟩ hfinish
  refine ok_bind (hcolumn.require rfl) (ok_bind (hkind.require rfl) ?_)
  refine ok_bind (hparameters.optional nofun) (ok_bind hconnective.option (ok_bind hfinish ?_))
  simp [Member.given]

end ColumnCondition

namespace TableCondition

/-- A condition with the cell that the JSON of its cell stands for. -/
def readBack (c : TableCondition) : TableCondition := { c with value := c.value.readBack }

/-- The fields of a condition. -/
def members (c : TableCondition) (h : c.value.Ordered) : List Member :=
  [.given "table" (reads_text c.table), .given "column" (reads_text c.column),
   .given "operator" c.operator.reads_toJson, .given "value" (Cell.reads_toJson h),
   .option "logicalOperator" Connective.read c.connective Connective.toJson id fun o _ =>
    ⟨o.reads_toJson, nofun⟩]

/-- A condition on a table is read back, its value as the cell that its JSON stands for. -/
theorem reads_toJson {c : TableCondition} (h : c.value.Ordered) :
    Reads TableCondition.read c.toJson c.readBack := by
  have hwritten : c.toJson = .object (written (c.members h)) := by simp [toJson, members]
  rw [hwritten]
  refine reads_record (c.members h) "CrossTableCondition" (by simp [members]) ?_
  rintro rec ⟨htable, hcolumn, hoperator, hvalue, hconnective⟩ hfinish
  refine ok_bind (htable.require rfl) (ok_bind (hcolumn.require rfl) ?_)
  refine ok_bind (hoperator.require rfl) (ok_bind (hvalue.optional nofun) ?_)
  refine ok_bind hconnective.option (ok_bind hfinish ?_)
  simp [Member.given, readBack]

end TableCondition

namespace Rule

/-- The records in a rule are ordered. -/
structure Ordered (r : Rule) : Prop where
  parameters : r.parameters.Ordered
  columnConditions : ∀ c ∈ r.columnConditions, c.parameters.Ordered
  tableConditions : ∀ c ∈ r.tableConditions, c.value.Ordered

/-- A rule with the cells that their JSON stands for. -/
def readBack (r : Rule) : Rule :=
  { r with tableConditions := r.tableConditions.map TableCondition.readBack }

/-- The fields of a rule. -/
def members (r : Rule) (h : r.Ordered) : List Member :=
  [.given "id" (reads_text r.id), .given "name" (reads_text r.name),
   .given "table" (reads_text r.table), .given "column" (reads_text r.column),
   .given "ruleType" r.kind.reads_toJson,
   .given "parameters" (Parameters.reads_toJson h.parameters),
   .given "severity" r.severity.reads_toJson, .given "enabled" (reads_bool r.enabled),
   .option "description" asText r.description .text (fun s => s) fun s _ => ⟨reads_text s, nofun⟩,
   .list "secondaryColumns" asText r.secondaryColumns .text (fun s => s) fun s _ => reads_text s,
   .list "columnConditions" ColumnCondition.read r.columnConditions ColumnCondition.toJson
    (fun c => c) fun c hc => ColumnCondition.reads_toJson (h.columnConditions c hc),
   .list "crossTableConditions" TableCondition.read r.tableConditions TableCondition.toJson
    TableCondition.readBack fun c hc => TableCondition.reads_toJson (h.tableConditions c hc)]

/-- A rule is read back from its members. -/
theorem reads_toJson {r : Rule} (h : r.Ordered) : Reads Rule.read r.toJson r.readBack := by
  have hwritten : r.toJson = .object (written (r.members h)) := by simp [toJson, members, listField]
  rw [hwritten]
  refine reads_record (r.members h) "Rule" (by simp [members]) ?_
  rintro rec ⟨hid, hname, htable, hcolumn, hkind, hparameters, hseverity, henabled, hdescription,
    hsecondary, hcolumns, htables⟩ hfinish
  refine ok_bind (hid.require rfl) (ok_bind (hname.require rfl) (ok_bind (htable.require rfl) ?_))
  refine ok_bind (hcolumn.optional nofun) (ok_bind (hkind.require rfl) ?_)
  refine ok_bind (hparameters.optional nofun) (ok_bind (hseverity.optional nofun) ?_)
  refine ok_bind (henabled.optional nofun)
    (ok_bind hdescription.option (ok_bind hsecondary.list ?_))
  refine ok_bind hcolumns.list (ok_bind htables.list (ok_bind hfinish ?_))
  simp [Member.given, readBack]

end Rule

/-! ## Inputs -/

/-- A list of values is read back as it is. -/
theorem ValueList.reads_toJson (l : ValueList) : Reads ValueList.read l.toJson l := by
  have hvalues : Reads (fun d => (asList Cell.read d).map (·.map Cell.display))
      (Json.ofTexts l.values) l.values := by
    have hcells : Reads (asList Cell.read) (Json.ofTexts l.values) (l.values.map Cell.text) :=
      reads_list fun s _ => Cell.reads_toJson (c := .text s) trivial
    have htexts : (l.values.map Cell.text).map Cell.display = l.values := by
      rw [List.map_map]
      exact List.map_id' l.values
    have hvalues := hcells.map fun cells => cells.map Cell.display
    rwa [htexts] at hvalues
  refine reads_record [.given "id" (reads_text l.id), .given "name" (reads_text l.name),
    .given "values" hvalues] "ValueList" (by simp) ?_
  rintro rec ⟨hid, hname, hvalues⟩ hfinish
  refine ok_bind (hid.require rfl) (ok_bind (hname.require rfl) ?_)
  exact ok_bind (hvalues.require rfl) (ok_bind hfinish rfl)

namespace Input

/-- The records in an input are ordered. -/
structure Ordered (i : Input) : Prop where
  rows : ∀ t ∈ i.datasets.tables, ∀ r ∈ t.2, ∀ f ∈ r.cells, f.2.Ordered
  rules : ∀ r ∈ i.rules, r.Ordered

/-- An input with the cells that their JSON stands for. -/
def readBack (i : Input) : Input :=
  { i with datasets := i.datasets.readBack, rules := i.rules.map Rule.readBack }

/-- An input is read back from its members. -/
theorem reads_toJson {i : Input} (h : i.Ordered) : Reads Input.read i.toJson i.readBack := by
  have hrules :
      Reads (asList Rule.read) (.array (i.rules.map Rule.toJson)) (i.rules.map Rule.readBack) :=
    reads_list fun r hr => Rule.reads_toJson (h.rules r hr)
  have hlists : Reads (asList ValueList.read) (.array (i.lists.map ValueList.toJson)) i.lists := by
    have hlists := reads_list fun (l : ValueList) (_ : l ∈ i.lists) => l.reads_toJson
    rwa [List.map_id'] at hlists
  refine reads_record [.given "datasets" (Datasets.reads_toJson h.rows), .given "rules" hrules,
    .given "valueLists" hlists] "ValidationInput" (by simp) ?_
  rintro rec ⟨hdatasets, hrules, hlists⟩ hfinish
  refine ok_bind (hdatasets.optional nofun) (ok_bind (hrules.optional nofun) ?_)
  exact ok_bind (hlists.optional nofun) (ok_bind hfinish rfl)

end Input

/-! ## Aggregations -/

namespace Aggregation

/-- A condition with the cell that the JSON of its cell stands for. -/
def Condition.readBack (c : Condition) : Condition := { c with value := c.value.readBack }

/-- A condition of a filter is read back, its value as the cell that its JSON stands for. -/
theorem Condition.reads_toJson {c : Condition} (h : c.value.Ordered) :
    Reads Condition.read c.toJson c.readBack := by
  refine reads_record [.given "column" (reads_text c.column),
    .given "operator" c.operator.reads_toJson,
    .given "value" (Cell.reads_toJson h)] "FilterCondition" (by simp) ?_
  rintro rec ⟨hcolumn, hoperator, hvalue⟩ hfinish
  refine ok_bind (hcolumn.require rfl) (ok_bind (hoperator.require rfl) ?_)
  exact ok_bind (hvalue.optional nofun) (ok_bind hfinish rfl)

namespace Filter

/-- The cells of the conditions. -/
def cells : Filter → List Cell
  | formula _ => []
  | conditions cs _ => cs.map Condition.value

/-- A filter with the cells that their JSON stands for. -/
def readBack : Filter → Filter
  | formula source => .formula source
  | conditions cs logic => .conditions (cs.map Condition.readBack) logic

/-- A filter is written in order. -/
theorem ordered_toJson {f : Filter} (h : ∀ c ∈ f.cells, c.Ordered) : f.toJson.Ordered := by
  cases f with
  | formula source => trivial
  | conditions cs logic =>
    have hcondition : ∀ j ∈ cs.map Condition.toJson, j.Ordered := by
      intro j hj
      obtain ⟨c, hc, rfl⟩ := List.mem_map.1 hj
      refine ⟨?_, trivial, trivial, Cell.ordered_toJson (h _ (List.mem_map_of_mem hc)), trivial⟩
      exact Fields.ordered_iff.2 (show ["column", "operator", "value"].Pairwise (· < ·) by decide)
    refine ⟨?_, Json.orderedItems_iff.2 hcondition, trivial, trivial⟩
    exact Fields.ordered_iff.2 (show ["conditions", "type"].Pairwise (· < ·) by decide)

/-- A filter is read back: a formula from a text, conditions from a record. -/
theorem reads_toJson {f : Filter} (h : ∀ c ∈ f.cells, c.Ordered) :
    Reads Filter.read f.toJson f.readBack := by
  intro k hk
  have hjson : asJson (.ofJson k) = .ok f.toJson := asJson_arranged hk (ordered_toJson h)
  refine ok_bind hjson ?_
  cases f with
  | formula source =>
    cases hk
    rfl
  | conditions cs logic =>
    have hconditions : Reads (asList Condition.read) (.array (cs.map Condition.toJson))
        (cs.map Condition.readBack) :=
      reads_list fun c hc => Condition.reads_toJson (h _ (List.mem_map_of_mem hc))
    have hread :
        readConditions (.ofJson k) = .ok (.conditions (cs.map Condition.readBack) logic) := by
      refine reads_record [.given "conditions" hconditions, .given "type" logic.reads_toJson]
        "Conditions" (by simp) ?_ k hk
      rintro rec ⟨hconditions, hlogic⟩ hfinish
      exact ok_bind (hconditions.require rfl)
        (ok_bind (hlogic.optional nofun) (ok_bind hfinish rfl))
    cases hk with
    | object hgs hperm =>
      dsimp only [Document.ofJson] at hread ⊢
      rw [hread]
      rfl

end Filter

/-- The records in an aggregation are ordered. -/
def Ordered (a : Aggregation) : Prop := ∀ f ∈ a.filter, ∀ c ∈ f.cells, c.Ordered

/-- An aggregation with the cells that their JSON stands for. -/
def readBack (a : Aggregation) : Aggregation := { a with filter := a.filter.map Filter.readBack }

/-- The fields of an aggregation. -/
def members (a : Aggregation) (h : a.Ordered) : List Member :=
  [.given "function" a.function.reads_toJson, .given "column" (reads_text a.column),
   .option "alias" asText a.label .text id fun s _ => ⟨reads_text s, nofun⟩,
   .option "filter" Filter.read a.filter Filter.toJson Filter.readBack fun f hf =>
    ⟨Filter.reads_toJson (h f hf), by cases f <;> nofun⟩,
   .list "groupColumns" asText a.groupColumns .text id fun s _ => reads_text s,
   .option "distinctColumn" asText a.distinctColumn .text id fun s _ => ⟨reads_text s, nofun⟩,
   .given "resultHandling" a.handling.reads_toJson]

/-- An aggregation is read back from its members. -/
theorem reads_toJson {a : Aggregation} (h : a.Ordered) :
    Reads Aggregation.read a.toJson a.readBack := by
  have hwritten :
      a.toJson = .object (written (a.members h)) := by simp [toJson, members, Json.ofTexts]
  rw [hwritten]
  refine reads_record (a.members h) "AggregationConfig" (by simp [members]) ?_
  rintro rec ⟨hfunction, hcolumn, hlabel, hfilter, hgroups, hdistinct, hhandling⟩ hfinish
  refine ok_bind (hfunction.require rfl) (ok_bind (hcolumn.require rfl) ?_)
  refine ok_bind hlabel.option (ok_bind hfilter.option (ok_bind hgroups.list ?_))
  refine ok_bind hdistinct.option (ok_bind (hhandling.optional nofun) (ok_bind hfinish ?_))
  simp [Member.given, readBack]

end Aggregation

/-! ## Equality -/

section
variable {α β : Type} {R : α → β → Prop} {f : α → β} {xs : List α}

/-- A list is related to an image of it if each member is related to its image. -/
theorem forall₂_map_self (h : ∀ x ∈ xs, R x (f x)) : List.Forall₂ R xs (xs.map f) :=
  List.forall₂_map_right_iff.2 (List.forall₂_same.2 h)

end

/-- A row of plain cells is read back as the same row. -/
theorem Row.same_readBack {r : Row} (h : ∀ f ∈ r.cells, f.2.Plain) : r.same r.readBack = true := by
  have hsame := Cell.sameFields_ofFields (Cell.plainFields_iff.2 h)
  rw [Cell.fieldsJson_eq_map, Cell.ofFields_eq_map, List.map_map] at hsame
  exact hsame

/-- The tables of datasets have the same names and equal rows. -/
def Datasets.Same (ds es : Datasets) : Prop :=
  List.Forall₂ (fun t u => t.1 = u.1 ∧ List.Forall₂ (fun r s => Row.same r s = true) t.2 u.2)
    ds.tables es.tables

/-- Two conditions are equal, with the equality of cells. -/
def TableCondition.Same (c d : TableCondition) : Prop :=
  c = { d with value := c.value } ∧ c.value.same d.value = true

namespace Rule

/-- Two rules are equal, with the equality of cells. -/
def Same (r s : Rule) : Prop :=
  r = { s with tableConditions := r.tableConditions } ∧
    List.Forall₂ TableCondition.Same r.tableConditions s.tableConditions

/-- The cells in a rule are plain. -/
def Plain (r : Rule) : Prop := ∀ c ∈ r.tableConditions, c.value.Plain

/-- A rule with plain values is read back as the same rule. -/
theorem same_readBack {r : Rule} (h : r.Plain) : r.Same r.readBack :=
  ⟨rfl, forall₂_map_self fun c hc => ⟨rfl, Cell.same_ofJson_toJson (h c hc)⟩⟩

end Rule

namespace Input

/-- Two inputs are equal, with the equality of cells. -/
structure Same (i j : Input) : Prop where
  datasets : i.datasets.Same j.datasets
  rules : List.Forall₂ Rule.Same i.rules j.rules
  lists : i.lists = j.lists

/-- The cells in an input are plain. -/
structure Plain (i : Input) : Prop where
  rows : ∀ t ∈ i.datasets.tables, ∀ r ∈ t.2, ∀ f ∈ r.cells, f.2.Plain
  rules : ∀ r ∈ i.rules, r.Plain

/-- A plain input is read back as the same input. -/
theorem same_readBack {i : Input} (h : i.Plain) : i.Same i.readBack where
  datasets := forall₂_map_self fun t ht =>
    ⟨rfl, forall₂_map_self fun r hr => Row.same_readBack (h.rows t ht r hr)⟩
  rules := forall₂_map_self fun r hr => Rule.same_readBack (h.rules r hr)
  lists := rfl

end Input

namespace Aggregation

/-- Two conditions are equal, with the equality of cells. -/
def Condition.Same (c d : Condition) : Prop :=
  c = { d with value := c.value } ∧ c.value.same d.value = true

/-- Two filters are equal, with the equality of cells. -/
inductive Filter.Same : Filter → Filter → Prop
  | formula (source : String) : Same (.formula source) (.formula source)
  | conditions {cs ds : List Condition} (logic : Logic) : List.Forall₂ Condition.Same cs ds →
      Same (.conditions cs logic) (.conditions ds logic)

/-- Two aggregations are equal, with the equality of cells. -/
def Same (a b : Aggregation) : Prop :=
  a = { b with filter := a.filter } ∧ Option.Rel Filter.Same a.filter b.filter

/-- The cells in an aggregation are plain. -/
def Plain (a : Aggregation) : Prop := ∀ f ∈ a.filter, ∀ c ∈ f.cells, c.Plain

/-- A filter with plain values is read back as the same filter. -/
theorem Filter.same_readBack {f : Filter} (h : ∀ c ∈ f.cells, c.Plain) : f.Same f.readBack := by
  cases f with
  | formula source => exact .formula source
  | conditions cs logic =>
    refine .conditions logic (forall₂_map_self fun c hc => ⟨rfl, ?_⟩)
    exact Cell.same_ofJson_toJson (h _ (List.mem_map_of_mem hc))

/-- An aggregation with a plain filter is read back as the same aggregation. -/
theorem same_readBack {a : Aggregation} (h : a.Plain) : a.Same a.readBack := by
  refine ⟨rfl, ?_⟩
  show Option.Rel Filter.Same a.filter (a.filter.map Filter.readBack)
  cases hfilter : a.filter with
  | none => exact .none
  | some f => exact .some (Filter.same_readBack (h f hfilter))

end Aggregation

/-- What is decoded from the JSON of an input whose cells are plain, in whatever order the fields of
its objects stand, is an equal input, whose tables bear the names under which they stand; and what
is decoded from the JSON of an aggregation whose cells are plain is an equal aggregation. -/
theorem exists_decode_same :
    (∀ i : Input, i.Ordered → i.Plain → ∀ k : Json, k.Arranged i.toJson →
      ∃ j, decode Input.read k = .ok j ∧ i.Same j ∧
        ∀ name t, j.datasets.table? name = some t → t.name = name) ∧
    ∀ a : Aggregation, a.Ordered → a.Plain → ∀ k : Json, k.Arranged a.toJson →
      ∃ b, decode Aggregation.read k = .ok b ∧ a.Same b := by
  refine ⟨fun i hi hplain k hk => ?_, fun a ha hplain k hk => ?_⟩
  · refine ⟨i.readBack, Input.reads_toJson hi k hk, Input.same_readBack hplain, fun name t ht => ?_⟩
    obtain ⟨rows, -, rfl⟩ := Option.map_eq_some_iff.1 ht
    rfl
  · exact ⟨a.readBack, Aggregation.reads_toJson ha k hk, Aggregation.same_readBack hplain⟩

/-- A negative zero inside a record, a rule with a list and conditions of both kinds, and a filter
with a number that is no integer. -/
theorem exists_decode_same_nested :
    let item := Cell.record [("size", .number (-0.0)), ("tags", .list [.text "a", .null])]
    let rule : Rule :=
      { id := "r", name := "items", table := "orders", column := "", kind := .crossTable
        parameters := [("ids", .array [.integer 1, .null])], enabled := false
        secondaryColumns := ["a"], columnConditions := [⟨"item", .required, [], some .or⟩]
        tableConditions := [⟨"orders", "item", .notEqual, .number 3.0, none⟩] }
    let i : Input :=
      ⟨⟨[("orders", [⟨[("item", item)], List.pairwise_singleton _ _⟩])],
        List.pairwise_singleton _ _⟩, [rule], [⟨"l", "list", ["1", "true"]⟩]⟩
    let a : Aggregation :=
      { function := ⟨true, .distinctCount⟩, column := "a"
        filter := some (.conditions [⟨"b", .less, .number 0.5⟩] .or) }
    (i.Ordered ∧ i.Plain ∧ a.Ordered ∧ a.Plain) ∧
      (∃ j, decode Input.read i.toJson = .ok j ∧ i.Same j ∧
        ∀ name t, j.datasets.table? name = some t → t.name = name) ∧
      ∃ b, decode Aggregation.read a.toJson = .ok b ∧ a.Same b := by
  intro item rule i a
  obtain ⟨hzero, hthree, hhalf⟩ : Number.isFinite (-0.0) = true ∧ Number.isFinite 3.0 = true ∧
      Number.isFinite 0.5 = true := by decide +kernel
  have hitem : item.Ordered :=
    ⟨Fields.ordered_iff.2 (show ["size", "tags"].Pairwise (· < ·) by decide), trivial,
      ⟨trivial, trivial, trivial⟩, trivial⟩
  have hplainItem : item.Plain := ⟨hzero, ⟨trivial, trivial, trivial⟩, trivial⟩
  have hordered : i.Ordered := by
    refine ⟨?_, ?_⟩
    · simp only [i, List.forall_mem_singleton]
      exact hitem
    · have hparameters : rule.parameters.Ordered :=
        ⟨List.pairwise_singleton _ _, ⟨trivial, trivial, trivial⟩, trivial⟩
      refine List.forall_mem_singleton.2 ⟨hparameters, ?_, ?_⟩
      · exact List.forall_mem_singleton.2 ⟨.nil, trivial⟩
      · exact List.forall_mem_singleton.2 trivial
  have hplain : i.Plain := by
    refine ⟨?_, List.forall_mem_singleton.2 (List.forall_mem_singleton.2 hthree)⟩
    simp only [i, List.forall_mem_singleton]
    exact hplainItem
  have hcells : a.Ordered ∧ a.Plain := by
    refine ⟨fun f hf => ?_, fun f hf => ?_⟩
    · obtain rfl := Option.some_inj.1 hf
      exact List.forall_mem_singleton.2 trivial
    · obtain rfl := Option.some_inj.1 hf
      exact List.forall_mem_singleton.2 hhalf
  obtain ⟨hinput, haggregation⟩ := exists_decode_same
  exact ⟨⟨hordered, hplain, hcells⟩, hinput i hordered hplain _ (.refl _),
    haggregation a hcells.1 hcells.2 _ (.refl _)⟩

end RowAudit
