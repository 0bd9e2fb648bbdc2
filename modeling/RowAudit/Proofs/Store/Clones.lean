import Mathlib.Logic.Relation
import RowAudit.Proofs.Store.History

/-!
# Clones of a store

Clones of a store share its records. Each of them makes its requests one after the other, and any of
them may be the next to be served; a request has the records for itself until it has been answered.
The main statement says that all of them together see one map in the order of insertion, whatever
the requests and however they are interleaved: the ids are distinct, the records and all answers
are those that the history of requests asks for, a refused request changes nothing, and no request
but the one that clears the store has an influence on records with another id
(`Clones.refines_ordered_map`).
-/

namespace RowAudit.Store

/-- The clones of a store: the records that they share, the requests that each of them has still to
make, and the requests that have been served, beginning with the last one. -/
structure Clones (α : Type) where
  store : Store α
  waiting : List (List (Request α))
  log : List (Served α)

/-- The id that a request is about. -/
def requestedId? {α : Type} [Record α] : Request α → Option String
  | .add r => some (Record.id r)
  | .update r => some (Record.id r)
  | .delete id => some id
  | .get id => some id
  | .contains id => some id
  | .list => none
  | .clear => none

/-- The records with other ids than the one that a request is about. -/
def others {α : Type} [Record α] (q : Request α) (rs : List α) : List α :=
  rs.filter fun r => requestedId? q ≠ some (Record.id r)

variable {α : Type} [Record α]

/-! ## One request -/

/-- A refused request leaves the store as it was. -/
theorem serve_of_refused {s : Store α} {q : Request α} {p : Problem}
    (h : (s.serve q).1 = .refused p) :
    (s.serve q).2 = s := by
  cases q with
  | add r =>
    rw [serve] at h ⊢
    cases hadd : s.add r with
    | ok t => rw [hadd] at h; cases h
    | error _ => rfl
  | update r =>
    rw [serve] at h ⊢
    cases hupdate : s.update r with
    | ok t => rw [hupdate] at h; cases h
    | error _ => rfl
  | delete id =>
    rw [serve] at h ⊢
    cases hdelete : s.delete id with
    | ok t => rw [hdelete] at h; cases h
    | error _ => rfl
  | get _ | contains _ | list => rfl
  | clear => cases h

section
variable {p : α → Bool} {rs : List α}

/-- Replacing a record leaves those with other ids. -/
theorem filter_replaceFirst {r : α} (hp : ∀ a, Record.id a = Record.id r → p a = false) :
    (replaceFirst r rs).filter p = rs.filter p := by
  induction rs with
  | nil => rfl
  | cons x rest ih =>
    rw [replaceFirst]
    split
    · next hid =>
      rw [List.filter_cons_of_neg (by rw [hp r rfl]; exact Bool.false_ne_true),
        List.filter_cons_of_neg (by rw [hp x (beq_iff_eq.1 hid)]; exact Bool.false_ne_true)]
    · rw [List.filter_cons, List.filter_cons, ih]

/-- Removing a record leaves those with other ids. -/
theorem filter_removeFirst {id : String} (hp : ∀ a, Record.id a = id → p a = false) :
    (removeFirst id rs).filter p = rs.filter p := by
  induction rs with
  | nil => rfl
  | cons x rest ih =>
    rw [removeFirst]
    split
    · next hid =>
      rw [List.filter_cons_of_neg (by rw [hp x (beq_iff_eq.1 hid)]; exact Bool.false_ne_true)]
    · rw [List.filter_cons, List.filter_cons, ih]

end

/-- A request has no influence on records with other ids, unless it clears the store. -/
theorem others_serve (s : Store α) {q : Request α} (h : q ≠ .clear) :
    others q (s.serve q).2.records = others q s.records := by
  have hother {id : String} (a : α) (hid : Record.id a = id) :
      decide (some id ≠ some (Record.id a)) = false := by
    rw [hid]
    exact decide_eq_false (not_not_intro rfl)
  cases q with
  | add r =>
    rw [serve, add]
    split
    · next t hadd =>
      split at hadd
      · cases hadd
      · cases hadd
        have hadded : [r].filter (fun a => decide (some (Record.id r) ≠ some (Record.id a))) = [] :=
          List.filter_cons_of_neg (by rw [hother r rfl]; exact Bool.false_ne_true)
        show (s.records ++ [r]).filter _ = _
        rw [List.filter_append]
        exact (congrArg _ hadded).trans (List.append_nil _)
    · rfl
  | update r =>
    rw [serve, update]
    split
    · next t hupdate =>
      split at hupdate
      · cases hupdate
        exact filter_replaceFirst fun a => hother a
      · cases hupdate
    · rfl
  | delete id =>
    rw [serve, delete]
    split
    · next r t hdelete =>
      split at hdelete
      · cases hdelete
        exact filter_removeFirst fun a => hother a
      · cases hdelete
    · rfl
  | get _ | contains _ | list => rfl
  | clear => exact absurd rfl h

/-! ## Any interleaving -/

/-- Every request has been answered as its history asks for. -/
def Answered (initial : List α) : List (Served α) → Prop
  | [] => True
  | x :: earlier => Answers initial earlier x.request x.answer ∧ Answered initial earlier

namespace Clones

/-- Clones of a store that has been filled with a list of records. -/
def start (initial : List α) (waiting : List (List (Request α))) : Clones α :=
  ⟨ofList initial, waiting, []⟩

/-- What can happen next: a clone has its next request served, or another clone is made. -/
inductive Step : Clones α → Clones α → Prop
  | serve {s : Store α} {q : Request α} {rest : List (Request α)}
      {before after : List (List (Request α))} {log : List (Served α)} :
      Step ⟨s, before ++ (q :: rest) :: after, log⟩
        ⟨(s.serve q).2, before ++ rest :: after, ⟨q, (s.serve q).1⟩ :: log⟩
  | clone {s : Store α} {requests : List (Request α)} {waiting : List (List (Request α))}
      {log : List (Served α)} :
      Step ⟨s, waiting, log⟩ ⟨s, waiting ++ [requests], log⟩

variable {initial : List α} {waiting : List (List (Request α))} {c d : Clones α}

/-- The records and the answers so far are those that the history asks for. -/
structure Faithful (initial : List α) (c : Clones α) : Prop where
  listed : Listed initial c.log c.store.records
  answered : Answered initial c.log

/-- At the start nothing has been asked and nothing answered. -/
theorem faithful_start : Faithful initial (start initial waiting) where
  listed := .ofList initial
  answered := trivial

/-- Serving a request answers it as its history asks for. -/
theorem Faithful.step (hc : Faithful initial c) (h : Step c d) : Faithful initial d := by
  cases h with
  | @serve s q =>
    obtain ⟨hanswer, hlisted⟩ := hc.listed.serve q
    exact ⟨hlisted, hanswer, hc.answered⟩
  | clone => exact ⟨hc.listed, hc.answered⟩

/-- Whatever has been served, the records and the answers are those that the history asks for. -/
theorem Faithful.reached (h : Relation.ReflTransGen Step (start initial waiting) c) :
    Faithful initial c := by
  induction h with
  | refl => exact faithful_start
  | tail _ hstep ih => exact ih.step hstep

/-- Whatever requests the clones of a store make, and in whatever order they are served: the ids are
distinct, the records are the list that the history leaves and no other, every answer has been and
will be the one that the history asks for, a refused request leaves the store as it was, and records
with other ids stay as they are and where they are. -/
theorem refines_ordered_map (h : Relation.ReflTransGen Step (start initial waiting) c) :
    c.store.ids.Nodup ∧ (∀ rs, Listed initial c.log rs ↔ rs = c.store.records) ∧
      Answered initial c.log ∧
      ∀ q, Answers initial c.log q (c.store.serve q).1 ∧
        (∀ p, (c.store.serve q).1 = .refused p → (c.store.serve q).2 = c.store) ∧
        (q ≠ .clear → others q (c.store.serve q).2.records = others q c.store.records) := by
  have hc : Faithful initial c := .reached h
  refine ⟨hc.listed.nodup, fun rs => ⟨fun hrs => hrs.unique hc.listed, ?_⟩, hc.answered,
    fun q => ?_⟩
  · rintro rfl
    exact hc.listed
  · exact ⟨(hc.listed.serve q).1, fun _ => serve_of_refused, others_serve c.store⟩

/-- Two lists of countries, the second under an id of its own. -/
def countries (id : String) (values : List String) : ValueList := ⟨id, "countries", values⟩

/-- One clone deletes a list, then another one adds it again and replaces the other list. -/
def reordered : Clones ValueList where
  store := ⟨[countries "b" ["FR"], countries "a" ["US"]]⟩
  waiting := [[], []]
  log := [⟨.update (countries "b" ["FR"]), .done⟩, ⟨.add (countries "a" ["US"]), .done⟩,
    ⟨.delete "a", .removed (countries "a" ["DE"])⟩]

/-- The list that was added again stands last, the one that was replaced keeps its place. -/
theorem refines_ordered_map_reordered :
    Relation.ReflTransGen Step
      (start [countries "a" ["DE"], countries "a" [], countries "b" []]
        [[.delete "a"], [.add (countries "a" ["US"]), .update (countries "b" ["FR"])]]) reordered ∧
    reordered.store.ids = ["b", "a"] ∧ reordered.store.ids.Nodup ∧
    ∀ rs, Listed [countries "a" ["DE"], countries "a" [], countries "b" []] reordered.log rs ↔
      rs = reordered.store.records := by
  have hsteps : Relation.ReflTransGen Step
      (start [countries "a" ["DE"], countries "a" [], countries "b" []]
        [[.delete "a"], [.add (countries "a" ["US"]), .update (countries "b" ["FR"])]])
          reordered := by
    refine .head (@Step.serve _ _ _ _ _ [] _ _) ?_
    refine .head (@Step.serve _ _ _ _ _ [[]] [] _) ?_
    exact .single (@Step.serve _ _ _ _ _ [[]] [] _)
  obtain ⟨hnodup, hlisted, -⟩ := refines_ordered_map hsteps
  exact ⟨hsteps, rfl, hnodup, hlisted⟩

end Clones

end RowAudit.Store
