import RowAudit.Proofs.Aggregation.CallSite
import RowAudit.Proofs.Aggregation.Grouping
import RowAudit.Proofs.Formula.Answers

/-!
# Operators between grouped aggregations

An operator takes the groups of two aggregations one by one, in the order of their keys, and refuses
groups of different numbers (`Evaluated.inTurn_combine`). It does not see the keys. So it is
the rows behind the two operands that decide whether groups with the same key come together: they do
so exactly if every key of a row behind one operand is that of a row behind the other one
(`Scope.eval_operands`). Two filters that let as many regions pass, but different ones, are enough
to pair the values of different regions (`Scope.northern_equal_southern`).
-/

namespace RowAudit

open Formula (Fault)

namespace Aggregation

/-- The groups of two aggregations have the same keys in the same order exactly if the same keys
occur among the rows. -/
theorem keys_groupsOf_eq_iff {a b : Aggregation} {rows rows' : List Row} :
    (a.groupsOf rows).map Group.key = (b.groupsOf rows').map Group.key ↔
      ∀ key, (∃ row ∈ rows, row.HasKey a.groupColumns key) ↔
        ∃ row ∈ rows', row.HasKey b.groupColumns key := by
  simp only [← mem_keys_groupsOf]
  constructor
  · intro h key
    rw [h]
  · exact (ascending_groupsOf a rows).eq_of_mem_iff (ascending_groupsOf b rows')

/-- The groups of given rows depend on the call site alone. -/
theorem groupsOf_congr {a b : Aggregation} (h : a.callSite = b.callSite) (rows : List Row) :
    a.groupsOf rows = b.groupsOf rows := by
  obtain ⟨hfunction, hcolumn, -, hgroups, hdistinct⟩ := callSite_eq_iff.1 h
  unfold groupsOf reduced
  rw [hfunction, hcolumn, hgroups, hdistinct]

end Aggregation

namespace Formula

namespace Evaluated

variable {f : Cell → Cell → Except Fault Cell}

/-- Two lists of cells are combined exactly if each pair is. -/
theorem zipCells_eq_ok_iff {as bs cs : List Cell} :
    zipCells f as bs = .ok cs ↔ cs.map .ok = List.zipWith f as bs := by
  induction as generalizing bs cs with
  | nil =>
    rw [zipCells, List.zipWith_nil_left, List.map_eq_nil_iff, Except.ok.injEq, eq_comm]
    nofun
  | cons a as ih =>
    cases bs with
    | nil =>
      rw [zipCells, List.zipWith_nil_right, List.map_eq_nil_iff, Except.ok.injEq, eq_comm]
      nofun
    | cons b bs =>
      rw [zipCells, List.zipWith_cons_cons]
      cases f a b with
      | error fault =>
        refine iff_of_false nofun fun h => ?_
        obtain ⟨d, ds, -, hd, -⟩ := List.map_eq_cons_iff.1 h
        cases hd
      | ok c =>
        show (zipCells f as bs >>= fun ds => .ok (c :: ds)) = .ok cs ↔ _
        constructor
        · intro h
          cases hrest : zipCells f as bs with
          | error fault =>
            rw [hrest] at h
            cases h
          | ok ds =>
            rw [hrest] at h
            cases h
            rw [List.map_cons, ih.1 hrest]
        · intro h
          obtain ⟨d, ds, rfl, hd, hds⟩ := List.map_eq_cons_iff.1 h
          cases hd
          rw [ih.2 hds]
          rfl

/-- What comes of two lists of groups that are taken in turn: a fault if one is longer, and else the
values at each position, unless a pair of values is at fault. -/
structure InTurn (f : Cell → Cell → Except Fault Cell) (gs hs : List Aggregation.Group)
    (handling : Aggregation.Handling) (x : Except Fault Evaluated) : Prop where
  refused : gs.length ≠ hs.length → x = .error (.misuse (.groupCounts gs.length hs.length))
  ok_iff : ∀ v, x = .ok v ↔ gs.length = hs.length ∧ ∃ values, v = .groups values handling ∧
    values.map .ok = List.zipWith (fun g h => f g.value h.value) gs hs

/-- Groups are combined in turn. -/
theorem inTurn_combine (f : Cell → Cell → Except Fault Cell) (gs hs : List Aggregation.Group)
    (h h' : Aggregation.Handling) :
    InTurn f gs hs h
      (combine f (Scope.evaluated h (.grouped gs)) (Scope.evaluated h' (.grouped hs))) := by
  have hcombine : combine f (Scope.evaluated h (.grouped gs)) (Scope.evaluated h' (.grouped hs)) =
      if gs.length = hs.length then
        (zipCells f (gs.map Aggregation.Group.value) (hs.map Aggregation.Group.value)).map
        (groups · h)
      else .error (.misuse (.groupCounts gs.length hs.length)) := by
    rw [Scope.evaluated, Scope.evaluated, combine, List.length_map, List.length_map]
  rw [hcombine]
  constructor
  · exact fun hne => if_neg hne
  · intro v
    have hzip (values : List Cell) :
        zipCells f (gs.map Aggregation.Group.value) (hs.map Aggregation.Group.value) = .ok values ↔
          values.map .ok = List.zipWith (fun g h => f g.value h.value) gs hs := by
      rw [zipCells_eq_ok_iff, List.zipWith_map]
    simp only [← hzip]
    split
    · next hlength =>
      rw [and_iff_right hlength]
      cases zipCells f (gs.map Aggregation.Group.value) (hs.map Aggregation.Group.value) with
      | error fault => exact iff_of_false nofun nofun
      | ok cs =>
        constructor
        · rintro ⟨⟩
          exact ⟨cs, rfl, rfl⟩
        · rintro ⟨values, rfl, hvalues⟩
          cases hvalues
          rfl
    · next hlength => exact iff_of_false nofun fun h => hlength h.1

end Evaluated

namespace Scope

variable {s : Scope} {m : Memo} {op : Operator} {a b : Aggregation}

/-- Rows over which an aggregation with a given call site is computed. -/
def Counts (s : Scope) (a : Aggregation) (rows : List Row) : Prop :=
  ∃ c : Aggregation, c.callSite = a.callSite ∧ c.Passing s.rows rows

/-- The answer for a grouped aggregation has the groups of such rows. -/
theorem Remembers.answer_grouped (hm : s.Remembers s.HasValue m) (ha : a.function.grouped = true) :
    s.Remembers s.HasValue ((s.answer a).run m).2 ∧
    ((∃ fault, (s.configured a).compute s.rows = .error fault ∧
        ((s.answer a).run m).1 = .error fault) ∨
      ∃ rows, s.Counts a rows ∧ ((s.answer a).run m).1 = .ok (.grouped (a.groupsOf rows))) := by
  obtain ⟨hmemo, hvalue⟩ := hm.answer s.respects_hasValue a
  refine ⟨hmemo, ?_⟩
  cases hanswer : ((s.answer a).run m).1 with
  | error fault =>
    obtain hcompute | ⟨-, r, -, hr⟩ := s.answer_cases a m
    · exact .inl ⟨fault, hcompute.symm.trans hanswer, rfl⟩
    · cases hr.symm.trans hanswer
  | ok r =>
    obtain ⟨c, hsite, hcompute⟩ := hvalue r hanswer
    obtain ⟨rows, hrows, rfl⟩ := Aggregation.compute_eq_ok_iff.1 hcompute
    refine .inr ⟨rows, ⟨c, hsite, hrows⟩, ?_⟩
    rw [(Aggregation.callSite_eq_iff.1 hsite).1, if_pos ha, Aggregation.groupsOf_congr hsite]

/-- An operator between two aggregations. -/
def operate (s : Scope) (op : Operator) (a b : Aggregation) (row : Row) (bound : Option Cell) :
    Run Memo Evaluated :=
  (Expr.binary op (.aggregate a) (.aggregate b)).eval (s.view row bound)

/-- The left operand is answered first, the right one after it, and then their values are
combined. -/
theorem run_operate (hand : op ≠ .and) (hor : op ≠ .or) (row : Row) (bound : Option Cell) :
    (s.operate op a b row bound).run m =
      match (s.answer a).run m with
      | (.error fault, m) => (.error fault, m)
      | (.ok r, m) =>
        match (s.answer b).run m with
        | (.error fault, m) => (.error fault, m)
        | (.ok r', m) =>
          ((evaluated (s.configured a).handling r).combine (Expr.applyOperator op)
            (evaluated (s.configured b).handling r'), m) := by
  have heval : s.operate op a b row bound =
      s.call a >>= fun x => s.call b >>= fun y => liftM (x.combine (Expr.applyOperator op) y) :=
    Expr.eval_operator _ hand hor _ _
  rw [heval, run_bind_eq, run_call]
  obtain ⟨x, m₁⟩ := (s.answer a).run m
  cases x with
  | error fault => rfl
  | ok r =>
    show ((s.call b >>= _).run m₁) = _
    rw [run_bind_eq, run_call]
    dsimp only
    obtain ⟨y, m₂⟩ := (s.answer b).run m₁
    cases y with
    | error fault => rfl
    | ok r' =>
      show (liftM (Evaluated.combine _ _ _) : Run Memo Evaluated).run m₂ = (_, m₂)
      cases (evaluated (s.configured a).handling r).combine (Expr.applyOperator op)
        (evaluated (s.configured b).handling r') <;> rfl

/-- An operator between two grouped aggregations with the same group columns either fails with the
fault of one of them or takes the groups of two lists of rows in turn, in ascending order of the
keys. So the value at a position is computed from the two groups at this position, and these have
the same key at all positions exactly if the same keys occur among the two lists of rows. -/
theorem eval_operands (hand : op ≠ .and) (hor : op ≠ .or) (ha : a.function.grouped = true)
    (hb : b.function.grouped = true) (hcolumns : a.groupColumns = b.groupColumns)
    (hm : s.Remembers s.HasValue m) (row : Row) (bound : Option Cell) :
    s.Remembers s.HasValue ((s.operate op a b row bound).run m).2 ∧
    ((∃ fault, ((s.configured a).compute s.rows = .error fault ∨
          (s.configured b).compute s.rows = .error fault) ∧
        ((s.operate op a b row bound).run m).1 = .error fault) ∨
      ∃ rows rows', s.Counts a rows ∧ s.Counts b rows' ∧
        Evaluated.InTurn (Expr.applyOperator op) (a.groupsOf rows) (b.groupsOf rows')
          (s.configured a).handling ((s.operate op a b row bound).run m).1 ∧
        ((a.groupsOf rows).map Aggregation.Group.key =
          (b.groupsOf rows').map Aggregation.Group.key ↔
          ∀ key, (∃ row ∈ rows, row.HasKey a.groupColumns key) ↔
            ∃ row ∈ rows', row.HasKey a.groupColumns key)) := by
  rw [run_operate hand hor]
  obtain ⟨hm₁, hleft⟩ := hm.answer_grouped ha
  rcases hrun : (s.answer a).run m with ⟨x, m₁⟩
  rw [hrun] at hm₁ hleft
  obtain ⟨fault, hfault, rfl⟩ | ⟨rows, hrows, rfl⟩ := hleft
  · exact ⟨hm₁, .inl ⟨fault, .inl hfault, rfl⟩⟩
  obtain ⟨hm₂, hright⟩ := Remembers.answer_grouped hm₁ hb
  dsimp only at hm₂ hright ⊢
  rcases hrun' : (s.answer b).run m₁ with ⟨y, m₂⟩
  rw [hrun'] at hm₂ hright
  obtain ⟨fault, hfault, rfl⟩ | ⟨rows', hrows', rfl⟩ := hright
  · exact ⟨hm₂, .inl ⟨fault, .inr hfault, rfl⟩⟩
  refine ⟨hm₂, .inr ⟨rows, rows', hrows, hrows', ?_, ?_⟩⟩
  · exact Evaluated.inTurn_combine _ _ _ _ (s.configured b).handling
  · rw [Aggregation.keys_groupsOf_eq_iff, hcolumns]

/-- A shop in a region. -/
def shop (region : String) : Row := .ofList [("region", .text region), ("v", .text "p")]

/-- A shop in the north and one in the south, with the same value. -/
def shops : Scope where
  name := "t"
  rows := [shop "n", shop "s"]
  aggregations := []
  memoize := false

/-- The least value of each region, of the shops that a filter lets pass. -/
def leastAmong (filter : String) : Aggregation where
  function := ⟨true, .min⟩
  column := "v"
  filter := some (.formula filter)
  groupColumns := ["region"]

/-- The value of the shop in the north. -/
def northern : Aggregation := leastAmong "region == 'n'"

/-- The value of the shop in the south. -/
def southern : Aggregation := leastAmong "region == 's'"

/-- Each of them has one group, with a key of its own. -/
theorem compute_northern_southern :
    northern.compute shops.rows = .ok (.grouped [⟨["n"], .text "p"⟩]) ∧
      southern.compute shops.rows = .ok (.grouped [⟨["s"], .text "p"⟩]) := by
  constructor
  · refine Aggregation.compute_eq_ok_iff.2 ⟨[shop "n"], ?_, by cbv⟩
    have hverdicts : ((Aggregation.Test.ofFilter northern.filter).toOption.map fun t =>
        shops.rows.map fun row => (t.passes row).toOption) = some ([true, false].map some) := by
      decide +kernel
    exact Aggregation.passing_of_verdicts hverdicts
  · refine Aggregation.compute_eq_ok_iff.2 ⟨[shop "s"], ?_, by cbv⟩
    have hverdicts : ((Aggregation.Test.ofFilter southern.filter).toOption.map fun t =>
        shops.rows.map fun row => (t.passes row).toOption) = some ([false, true].map some) := by
      decide +kernel
    exact Aggregation.passing_of_verdicts hverdicts

/-- The comparison of the north with the south fails with no fault, so it takes their groups in
turn. -/
theorem eval_operands_shops :
    shops.Remembers shops.HasValue .empty ∧ northern.groupColumns = southern.groupColumns ∧
      ∃ rows rows', shops.Counts northern rows ∧ shops.Counts southern rows' ∧
        Evaluated.InTurn (Expr.applyOperator (.comparison .equal)) (northern.groupsOf rows)
          (southern.groupsOf rows') .all
          ((shops.operate (.comparison .equal) northern southern (.ofList []) none).run
            .empty).1 := by
  have hempty := shops.remembers_empty shops.HasValue
  have hconfigured (a : Aggregation) : shops.configured a = a := rfl
  have hand : Operator.comparison .equal ≠ .and := nofun
  have hor : Operator.comparison .equal ≠ .or := nofun
  refine ⟨hempty, rfl, ?_⟩
  obtain ⟨-, ⟨fault, hfault, -⟩ | ⟨rows, rows', hrows, hrows', hturn, -⟩⟩ :=
    eval_operands (a := northern) (b := southern) hand hor rfl rfl rfl hempty (.ofList []) none
  · rw [hconfigured, hconfigured, compute_northern_southern.1, compute_northern_southern.2]
      at hfault
    rcases hfault with hfault | hfault <;> cases hfault
  · rw [hconfigured] at hturn
    exact ⟨rows, rows', hrows, hrows', hturn⟩

/-- The value of the north is compared with that of the south: the operands have one group each, but
no key in common, and nothing is reported. -/
theorem northern_equal_southern :
    northern.compute shops.rows = .ok (.grouped [⟨["n"], .text "p"⟩]) ∧
      southern.compute shops.rows = .ok (.grouped [⟨["s"], .text "p"⟩]) ∧
      ((shops.operate (.comparison .equal) northern southern (.ofList []) none).run .empty).1 =
        .ok (.groups [.bool true] .all) := by
  obtain ⟨hnorthern, hsouthern⟩ := compute_northern_southern
  refine ⟨hnorthern, hsouthern, ?_⟩
  have hanswer {a : Aggregation} {r : Aggregation.Result} (h : a.compute shops.rows = .ok r) :
      (shops.answer a).run .empty = (.ok r, .empty) := by
    have hcompute : (shops.configured a).compute shops.rows = .ok r := h
    rw [answer, hcompute]
    rfl
  have hequal : Comparison.equal.holds (.text "p") (.text "p") = true := by decide +kernel
  rw [run_operate, hanswer hnorthern]
  · dsimp only
    rw [hanswer hsouthern]
    show Except.ok
      (Evaluated.groups [.bool (Comparison.equal.holds (.text "p") (.text "p"))] .all) = _
    rw [hequal]
  · nofun
  · nofun

end Scope

end Formula

end RowAudit
