import RowAudit.Proofs.Aggregation.CallSite
import RowAudit.Proofs.Aggregation.Grouping
import RowAudit.Proofs.Formula.Answers

/-!
# Labels of configured aggregations

A name that is no column of the row is looked for among the labels of the configured aggregations.
What is found is then looked for once more by its call site, of which neither the label nor the
handling is a part, and in which a list of conditions looks like the formula that spells it. So an
aggregation with the same call site that stands earlier in the list is taken in its place, under
whatever label (`Scope.eval_label`). That makes a difference if the two have different handlings
(`Scope.label_handled_otherwise`), or if one of them has conditions.
-/

namespace RowAudit.Formula.Scope

variable {s : Scope} {m : Memo} {c d : Aggregation} {before after : List Aggregation}
  {name : String} {row : Row} {bound : Option Cell}

/-- What an aggregation itself gives over the table, with its own handling. -/
def own (s : Scope) (c : Aggregation) : Except Fault Evaluated :=
  (c.compute s.rows).map (evaluated c.handling)

/-- Aggregations with one call site give the same unless one of them has conditions, or their groups
are handled differently. -/
theorem own_congr (hsite : d.callSite = c.callSite) (hd : d.hasConditions = false)
    (hc : c.hasConditions = false)
    (hhandling : c.function.grouped = true → d.handling = c.handling) :
    s.own d = s.own c := by
  unfold own
  rw [Aggregation.compute_eq_of_callSite_eq hd hc hsite]
  cases hgrouped : c.function.grouped with
  | true => rw [hhandling hgrouped]
  | false =>
    cases hcompute : c.compute s.rows with
    | error fault => rfl
    | ok r =>
      obtain ⟨rows, -, rfl⟩ := Aggregation.compute_eq_ok_iff.1 hcompute
      rw [hgrouped]
      rfl

/-- What follows the first match in a list does not matter. -/
theorem find?_append_cons {α : Type} (p : α → Bool) (x : α) (hx : p x = true) (xs ys : List α) :
    (xs ++ x :: ys).find? p = some ((xs.find? p).getD x) := by
  rw [List.find?_append, List.find?_cons_of_pos hx]
  cases xs.find? p <;> rfl

/-- A configured aggregation is answered with the value of the one that is computed for it. -/
theorem answer_of_mem (hm : s.Remembers s.HasConfiguredValue m) (hc : c ∈ s.aggregations) :
    ((s.answer c).run m).1 = (s.configured c).compute s.rows := by
  obtain hcompute | ⟨hmemoize, r, hr, hanswer⟩ := s.answer_cases c m
  · exact hcompute
  · have hsome : (s.aggregations.find? fun d => d.callSite == c.callSite).isSome = true :=
      List.find?_isSome.2 ⟨c, hc, beq_self_eq_true _⟩
    obtain ⟨d, hd⟩ := Option.isSome_iff_exists.1 hsome
    rw [hanswer, configured, hd]
    exact (hm hmemoize c r hr d hd).symm

/-- The aggregation that is computed for a configured one is itself or one that stands before it. -/
theorem configured_eq (hlist : s.aggregations = before ++ c :: after) :
    s.configured c = (before.find? fun d => d.callSite == c.callSite).getD c := by
  rw [configured, hlist, find?_append_cons (·.callSite == c.callSite) c (beq_self_eq_true _)]
  rfl

/-- A name that is no column stands for the first aggregation that is labelled so. -/
theorem eval_column (hlist : s.aggregations = before ++ c :: after) (hlabel : c.label = some name)
    (hfirst : ∀ d ∈ before, d.label ≠ some name) (hrow : row.has name = false)
    (hbound : name = "value" → bound = none) :
    (Expr.column name).eval (s.view row bound) = s.call c := by
  have hfind : s.aggregations.find? (fun a => a.label == some name) = some c := by
    have hnone : before.find? (fun a => a.label == some name) = none :=
      List.find?_eq_none.2 fun d hd h => hfirst d hd (beq_iff_eq.1 h)
    rw [hlist, find?_append_cons (·.label == some name) c (beq_iff_eq.2 hlabel), hnone]
    rfl
  have hunbound : (if name = "value" then bound else none) = none := by
    split
    · next h => exact hbound h
    · rfl
  simp only [Expr.eval, View.column, view, hunbound, hfind, hrow, Bool.false_eq_true, if_false]

/-- A name that is no column, but the label of a configured aggregation, has the value of the
earliest aggregation with the same call site as the first one with the label. No aggregation after
that one matters, and one before it only if it has the same call site, and the groups are handled
differently or one of the two has conditions. -/
theorem eval_label (hlist : s.aggregations = before ++ c :: after) (hlabel : c.label = some name)
    (hfirst : ∀ d ∈ before, d.label ≠ some name) (hrow : row.has name = false)
    (hbound : name = "value" → bound = none) (hm : s.Remembers s.HasConfiguredValue m) :
    (((Expr.column name).eval (s.view row bound)).run m).1 =
        s.own ((before.find? fun d => d.callSite == c.callSite).getD c) ∧
      ((((Expr.column name).eval (s.view row bound)).run m).1 = s.own c ∨
        ∃ d ∈ before, d.callSite = c.callSite ∧
          (c.function.grouped = true ∧ d.handling ≠ c.handling ∨
            d.hasConditions = true ∨ c.hasConditions = true)) ∧
      s.Remembers s.HasConfiguredValue (((Expr.column name).eval (s.view row bound)).run m).2 := by
  have hmem : c ∈ s.aggregations := hlist ▸ List.mem_append_right _ List.mem_cons_self
  have hvalue : ((s.call c).run m).1 =
      s.own ((before.find? fun d => d.callSite == c.callSite).getD c) := by
    rw [run_call, answer_of_mem hm hmem, configured_eq hlist]
    rfl
  rw [eval_column hlist hlabel hfirst hrow hbound]
  refine ⟨hvalue, ?_, ?_⟩
  · rw [hvalue]
    cases hfind : before.find? fun d => d.callSite == c.callSite with
    | none => exact .inl rfl
    | some d =>
      have hd : d ∈ before := List.mem_of_find?_eq_some hfind
      have hsite : d.callSite = c.callSite := by simpa using List.find?_some hfind
      refine Classical.or_iff_not_imp_right.2 fun hother => ?_
      have hsame : ¬ (c.function.grouped = true ∧ d.handling ≠ c.handling ∨
          d.hasConditions = true ∨ c.hasConditions = true) := fun h => hother ⟨d, hd, hsite, h⟩
      simp only [not_or, Bool.not_eq_true, not_and, not_not] at hsame
      obtain ⟨hhandling, hdc, hcc⟩ := hsame
      exact own_congr hsite hdc hcc hhandling
  · rw [run_call]
    exact (hm.answer s.respects_hasConfiguredValue c).1

/-- The least value of each region. -/
def leastValue (label : Option String) (handling : Aggregation.Handling) : Aggregation where
  function := ⟨true, .min⟩
  column := "v"
  label := label
  groupColumns := ["region"]
  handling := handling

/-- Two regions, one of which has no value. The least values are wanted of both, and then, under a
label, of any. -/
def regions : Scope where
  name := "t"
  rows := [.ofList [("region", .text "n"), ("v", .text "p")], .ofList [("region", .text "s")]]
  aggregations := [leastValue none .all, leastValue (some "n") .any]
  memoize := false

/-- The second one is labelled, and the first one is computed for it. -/
theorem eval_label_regions :
    regions.aggregations = [leastValue none .all] ++ leastValue (some "n") .any :: [] ∧
      (∀ d ∈ [leastValue none .all], d.label ≠ some "n") ∧ (Row.ofList []).has "n" = false ∧
      regions.Remembers regions.HasConfiguredValue .empty ∧
      (((Expr.column "n").eval (regions.view (.ofList []) none)).run .empty).1 =
        regions.own (leastValue none .all) := by
  have hfirst : ∀ d ∈ [leastValue none .all], d.label ≠ some "n" := by
    intro d hd
    rw [List.mem_singleton.1 hd]
    nofun
  have hempty := regions.remembers_empty regions.HasConfiguredValue
  refine ⟨rfl, hfirst, rfl, hempty, ?_⟩
  have hsite : (leastValue none .all).callSite = (leastValue (some "n") .any).callSite :=
    Aggregation.callSite_eq_iff.2 ⟨rfl, rfl, rfl, rfl, rfl⟩
  have hlist : regions.aggregations = [leastValue none .all] ++ leastValue (some "n") .any :: [] :=
    rfl
  have hrow : (Row.ofList []).has "n" = false := rfl
  obtain ⟨hvalue, -, -⟩ := eval_label hlist rfl hfirst hrow (fun _ => rfl) hempty
  have hfind : [leastValue none .all].find? (·.callSite == (leastValue (some "n") .any).callSite) =
      some (leastValue none .all) := List.find?_cons_of_pos (beq_iff_eq.2 hsite)
  rw [hvalue, hfind, Option.getD_some]

/-- The groups of the second one are handled as the first one asks: all have to count, although any
one would do. -/
theorem label_handled_otherwise :
    regions.own (leastValue (some "n") .any) = .ok (.groups [.text "p", .null] .any) ∧
      (((Expr.column "n").eval (regions.view (.ofList []) none)).run .empty).1 =
        .ok (.groups [.text "p", .null] .all) := by
  constructor <;> cbv

end RowAudit.Formula.Scope
