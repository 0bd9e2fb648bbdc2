import RowAudit.Proofs.Formula.Labels
import Mathlib.Data.List.Nodup

/-!
# The columns of a formula

`Expr.columns` collects the columns of a tree in one walk that carries what it has seen.
`Expr.columnNames` says without such a list which names stand in the column nodes, from left to
right, and `FirstOccurrences` what is left of them if each name counts only where it first stands:
one more name keeps that, so the walk over a tree does. The walk of an evaluation asks the row for
nothing but these columns, so rows that agree on them, in the cells and in whether there is one,
give the same value or the same fault (`evaluate_frame`).
-/

namespace RowAudit

/-- Two rows have the same of some columns, and the same cells in them. -/
def Row.AgreeOn (columns : List String) (row row' : Row) : Prop :=
  ∀ name ∈ columns, row.has name = row'.has name ∧ row.get name = row'.get name

namespace Formula

/-! ## Names in the order in which they first stand -/

/-- A list has the names of another one, each once, in the order in which they first stand there. -/
structure FirstOccurrences (names firsts : List String) : Prop where
  nodup : firsts.Nodup
  mem_iff : ∀ n, n ∈ firsts ↔ n ∈ names
  idxOf_lt_iff : ∀ m ∈ firsts, ∀ n ∈ firsts,
    firsts.idxOf m < firsts.idxOf n ↔ names.idxOf m < names.idxOf n

/-- A name at the end of a list comes after all that are in the list. -/
theorem idxOf_concat_lt_iff {l : List String} {name m n : String} (hm : m ∈ l ++ [name])
    (hn : n ∈ l ++ [name]) : (l ++ [name]).idxOf m < (l ++ [name]).idxOf n ↔
      m ∈ l ∧ (n ∈ l → l.idxOf m < l.idxOf n) := by
  have hlast {k : String} (hk : k ∈ l ++ [name]) (hnot : k ∉ l) :
      (l ++ [name]).idxOf k = l.length := by
    obtain rfl : k = name := by simpa [hnot] using hk
    simp [List.idxOf_append, hnot]
  have hfirst {k : String} (hk : k ∈ l) : (l ++ [name]).idxOf k = l.idxOf k := by
    rw [List.idxOf_append, if_pos hk]
  by_cases hml : m ∈ l
  · have hlt : l.idxOf m < l.length := List.idxOf_lt_length_iff.2 hml
    rw [hfirst hml]
    by_cases hnl : n ∈ l
    · simp [hfirst hnl, hml, hnl]
    · simp [hlast hn hnl, hml, hnl, hlt]
  · rw [hlast hm hml]
    refine iff_of_false (Nat.not_lt.2 ?_) fun h => hml h.1
    by_cases hnl : n ∈ l
    · rw [hfirst hnl]
      exact List.idxOf_le_length
    · rw [hlast hn hnl]

namespace FirstOccurrences

variable {names firsts : List String} {name : String}

/-- No names have no first occurrences. -/
theorem nil : FirstOccurrences [] [] := ⟨List.nodup_nil, fun _ => Iff.rfl, nofun⟩

/-- A name that has been met adds nothing. -/
theorem concat_of_mem (h : FirstOccurrences names firsts) (hname : name ∈ firsts) :
    FirstOccurrences (names ++ [name]) firsts where
  nodup := h.nodup
  mem_iff n := by
    rw [h.mem_iff, List.mem_append, List.mem_singleton]
    refine ⟨.inl, fun hn => hn.elim id ?_⟩
    rintro rfl
    exact (h.mem_iff n).1 hname
  idxOf_lt_iff m hm n hn := by
    have hm' : m ∈ names := (h.mem_iff m).1 hm
    have hn' : n ∈ names := (h.mem_iff n).1 hn
    rw [idxOf_concat_lt_iff (List.mem_append_left _ hm') (List.mem_append_left _ hn'),
      h.idxOf_lt_iff m hm n hn]
    exact ⟨fun hlt => ⟨hm', fun _ => hlt⟩, fun hlt => hlt.2 hn'⟩

/-- A new name comes last. -/
theorem concat_of_notMem (h : FirstOccurrences names firsts) (hname : name ∉ firsts) :
    FirstOccurrences (names ++ [name]) (firsts ++ [name]) where
  nodup := by
    refine List.nodup_append.2 ⟨h.nodup, List.nodup_singleton name, fun m hm n hn => ?_⟩
    rintro rfl
    exact hname (List.mem_singleton.1 hn ▸ hm)
  mem_iff n := by rw [List.mem_append, List.mem_append, h.mem_iff]
  idxOf_lt_iff m hm n hn := by
    have hnames {k : String} (hk : k ∈ firsts ++ [name]) : k ∈ names ++ [name] := by
      rw [List.mem_append] at hk ⊢
      exact hk.imp_left (h.mem_iff k).1
    rw [idxOf_concat_lt_iff hm hn, idxOf_concat_lt_iff (hnames hm) (hnames hn), ← h.mem_iff,
      ← h.mem_iff]
    exact and_congr_right fun hmf => forall_congr' fun hnf => h.idxOf_lt_iff m hmf n hnf

end FirstOccurrences

namespace Expr

mutual

/-- The names in the column nodes of a tree, from left to right, each as often as it stands
there. -/
def columnNames : Expr → List String
  | literal _ => []
  | column name => [name]
  | list items => columnNamesItems items
  | negate e => columnNames e
  | not e => columnNames e
  | binary _ l r => columnNames l ++ columnNames r
  | aggregate _ => []

/-- `columnNames` over the items of a list. -/
def columnNamesItems : List Expr → List String
  | [] => []
  | e :: rest => columnNames e ++ columnNamesItems rest

end

mutual

/-- The walk over a tree adds the names in its column nodes. -/
theorem firstOccurrences_columnsAfter : ∀ (e : Expr) {names seen : List String},
    FirstOccurrences names seen → FirstOccurrences (names ++ e.columnNames) (columnsAfter seen e)
  | literal _, _, _, h => by
    rw [columnNames, List.append_nil]
    exact h
  | aggregate _, _, _, h => by
    rw [columnNames, List.append_nil]
    exact h
  | column name, _, seen, h => by
    rw [columnNames, columnsAfter]
    split
    · next hseen => exact h.concat_of_mem (List.contains_iff_mem.1 hseen)
    · next hseen => exact h.concat_of_notMem fun hmem => hseen (List.contains_iff_mem.2 hmem)
  | list items, _, _, h => firstOccurrences_columnsAfterItems items h
  | negate e, _, _, h => firstOccurrences_columnsAfter e h
  | not e, _, _, h => firstOccurrences_columnsAfter e h
  | binary _ l r, _, _, h => by
    rw [columnNames, ← List.append_assoc]
    exact firstOccurrences_columnsAfter r (firstOccurrences_columnsAfter l h)

/-- `firstOccurrences_columnsAfter` over the items of a list. -/
theorem firstOccurrences_columnsAfterItems : ∀ (es : List Expr) {names seen : List String},
    FirstOccurrences names seen →
      FirstOccurrences (names ++ columnNamesItems es) (columnsAfterItems seen es)
  | [], _, _, h => by
    rw [columnNamesItems, List.append_nil]
    exact h
  | e :: rest, _, _, h => by
    rw [columnNamesItems, ← List.append_assoc]
    exact firstOccurrences_columnsAfterItems rest (firstOccurrences_columnsAfter e h)

end

/-- The columns of a tree are the first occurrences of its names. -/
theorem firstOccurrences_columns (e : Expr) : FirstOccurrences e.columnNames e.columns :=
  firstOccurrences_columnsAfter e .nil

end Expr

/-! ## Rows that agree -/

section
variable {σ : Type} {v w : View σ}

/-- Computations that are in step from equal states are equal. -/
theorem InStep.eq {α ε : Type} {x y : ExceptT ε (StateM σ) α} (h : InStep Eq x y) : x = y :=
  funext fun s => Prod.ext (h s s rfl).1 (h s s rfl).2

/-- A computation is in step with itself from equal states. -/
theorem InStep.self {α ε : Type} (x : ExceptT ε (StateM σ) α) : InStep Eq x x := by
  rintro s _ rfl
  exact ⟨rfl, rfl⟩

/-- A name means the same on rows that agree on it, also if it stands for an aggregation. -/
theorem View.column_congr {name : String} (hhas : v.row.has name = w.row.has name)
    (hget : v.row.get name = w.row.get name) (hbound : v.bound = w.bound)
    (hlabelled : v.labelled = w.labelled) (hcall : v.call = w.call) :
    v.column name = w.column name := by
  rw [View.column, View.column, hhas, hget, hbound, hlabelled, hcall]

/-- A walk asks the row for nothing but the columns of the tree. -/
theorem Expr.eval_congr (e : Expr) (hrow : Row.AgreeOn e.columns v.row w.row)
    (hbound : v.bound = w.bound) (hlabelled : v.labelled = w.labelled) (hcall : v.call = w.call) :
    e.eval v = e.eval w := by
  refine InStep.eq (eval_inStep e [] (fun name hname => ?_) fun a _ => ?_)
  · obtain ⟨hhas, hget⟩ := hrow name hname
    rw [View.column_congr hhas hget hbound hlabelled hcall]
    exact InStep.self _
  · rw [hcall]
    exact InStep.self _

end

/-- The columns of a formula are the names in its column nodes, each once, in the order in which
they first stand there. Rows that agree on these columns give the same value or the same fault, and
leave the memo in the same state, whatever is bound to the name `value`, with a table or without
one. -/
theorem evaluate_frame (f : Formula) :
    FirstOccurrences f.expr.columnNames f.expr.columns ∧
    ∀ row row', Row.AgreeOn f.expr.columns row row' → ∀ bound,
      f.expr.evalRow row bound = f.expr.evalRow row' bound ∧
      ∀ scope memo, (f.evaluate row bound scope).run memo =
        (f.evaluate row' bound scope).run memo := by
  refine ⟨f.expr.firstOccurrences_columns, fun row row' hrow bound => ⟨?_, fun scope memo => ?_⟩⟩
  · have heval : f.expr.eval (Expr.rowView row bound) = f.expr.eval (Expr.rowView row' bound) :=
      f.expr.eval_congr hrow rfl rfl rfl
    rw [Expr.evalRow, Expr.evalRow, heval]
  · have heval : f.evaluate row bound scope = f.evaluate row' bound scope := by
      cases scope with
      | none => exact f.expr.eval_congr (w := bareView row' bound) hrow rfl rfl rfl
      | some s => exact f.expr.eval_congr (w := s.view row' bound) hrow rfl rfl rfl
    rw [heval]

/-- A formula that asks for its first column again if the second one is absent. -/
def priced : Formula where
  source := "price != null && n || price > 3"
  dialect := .table
  expr := .binary .or
    (.binary .and (.binary (.comparison .notEqual) (.column "price") (.literal .null))
      (.column "n"))
    (.binary (.comparison .greater) (.column "price") (.literal (.number 3)))

/-- The name `n` stands for an aggregation on two rows that have no such column, and otherwise agree
on the price alone. -/
theorem evaluate_frame_priced :
    priced.expr.columns = ["price", "n"] ∧
    Row.AgreeOn ["price", "n"] (.ofList [("price", .text "7"), ("unit", .text "kg")])
      (.ofList [("price", .text "7")]) ∧
    ∀ memo, (priced.evaluate (.ofList [("price", .text "7"), ("unit", .text "kg")]) none
        (some Scope.regions)).run memo =
      (priced.evaluate (.ofList [("price", .text "7")]) none (some Scope.regions)).run memo := by
  have hcolumns : priced.expr.columns = ["price", "n"] := by decide +kernel
  have hagree : Row.AgreeOn ["price", "n"] (.ofList [("price", .text "7"), ("unit", .text "kg")])
      (.ofList [("price", .text "7")]) := by
    intro name hname
    obtain rfl | rfl : name = "price" ∨ name = "n" := by simpa using hname
    · exact ⟨rfl, rfl⟩
    · exact ⟨rfl, rfl⟩
  obtain ⟨-, hframe⟩ := evaluate_frame priced
  rw [hcolumns] at hframe
  exact ⟨hcolumns, hagree, (hframe _ _ hagree none).2 (some Scope.regions)⟩

end Formula

end RowAudit
