import Mathlib.Data.List.Sort
import RowAudit.Json.Decode

/-!
# Reading what has been written

The fields of an object may be written in any order (`Json.Arranged`). A reader *reads* a value from
a tree if it gives the value whatever the order is (`Document.Reads`). The plain readers do, and so
do those of lists and of free-form objects. A record is written as a list of members, each with its
reader and what it reads (`Document.Member`); `Document.reads_record` reduces what a reader of
records reads to what it makes of these.
-/

namespace RowAudit

/-! ## Free-form objects -/

namespace Fields

variable {α : Type} {fs : Fields α}

/-- A field with a new name is one more field, wherever it is put. -/
theorem insert_perm {name : String} {value : α} (h : name ∉ fs.names) :
    List.Perm (fs.insert name value) ((name, value) :: fs) := by
  induction fs with
  | nil => exact .refl _
  | cons f rest ih =>
    obtain ⟨n, v⟩ := f
    obtain ⟨hne, hrest⟩ : name ≠ n ∧ name ∉ names rest := by simpa [names] using h
    unfold insert
    split
    · exact .refl _
    · exact ((ih hrest).cons _).trans (.swap _ _ _)

/-- Fields are in order exactly if their names are increasing. -/
theorem ordered_iff : Ordered fs ↔ fs.names.Pairwise (· < ·) := List.pairwise_map.symm

/-- Fields in order have different names. -/
theorem Ordered.nodup_names (h : Ordered fs) : fs.names.Nodup := by
  refine (ordered_iff.1 h).imp ?_
  rintro name _ hlt rfl
  exact String.lt_irrefl name hlt

/-- Pairs with different names are put in order and otherwise kept. -/
theorem ofList_perm {pairs : List (String × α)} (h : (names pairs).Nodup) :
    List.Perm (ofList pairs) pairs := by
  have hfold : ∀ (pairs : List (String × α)) (fs : Fields α), (names (pairs ++ fs)).Nodup →
      List.Perm (pairs.foldl (fun fs p => insert p.1 p.2 fs) fs) (pairs ++ fs) := by
    intro pairs
    induction pairs with
    | nil => exact fun fs _ => .refl fs
    | cons p pairs ih =>
      intro fs hnodup
      have hmiddle : List.Perm (pairs ++ p :: fs) (p :: pairs ++ fs) := List.perm_middle
      have hp : p.1 ∉ names fs := by
        obtain ⟨hp, -⟩ := List.nodup_cons.1 hnodup
        intro hmem
        exact hp (List.map_append ▸ List.mem_append_right _ hmem)
      have hinsert : List.Perm (pairs ++ insert p.1 p.2 fs) (pairs ++ p :: fs) :=
        (insert_perm hp).append_left pairs
      have hnodup : (names (pairs ++ insert p.1 p.2 fs)).Nodup :=
        ((hinsert.trans hmiddle).map Prod.fst).nodup_iff.2 hnodup
      exact (ih _ hnodup).trans (hinsert.trans hmiddle)
  exact (hfold pairs [] (by rwa [List.append_nil])).trans (.of_eq (List.append_nil pairs))

/-- A map of the values leaves fields in order. -/
theorem Ordered.map {β : Type} (h : Ordered fs) (g : α → β) :
    Ordered (List.map (fun f => (f.1, g f.2)) fs) := List.pairwise_map.2 h

/-- An ordered list of fields is what its fields make, in whatever order they come. -/
theorem ofList_eq {pairs : List (String × α)} (hperm : List.Perm pairs fs) (h : Ordered fs) :
    ofList pairs = fs := by
  have hnodup : (names pairs).Nodup := (hperm.map Prod.fst).nodup_iff.2 h.nodup_names
  refine List.Perm.eq_of_pairwise (fun a b _ _ hab hba => ?_) (ordered_ofList pairs) h
    ((ofList_perm hnodup).trans hperm)
  exact absurd (String.lt_trans hab hba) (String.lt_irrefl _)

end Fields

/-! ## Trees -/

namespace Json

mutual

/-- Two trees are equal but for the order of the fields in their objects. -/
inductive Arranged : Json → Json → Prop
  | null : Arranged .null .null
  | bool (b : Bool) : Arranged (.bool b) (.bool b)
  | integer (n : Int) : Arranged (.integer n) (.integer n)
  | float (x : Float) : Arranged (.float x) (.float x)
  | text (s : String) : Arranged (.text s) (.text s)
  | array {ks js : List Json} : ArrangedItems ks js → Arranged (.array ks) (.array js)
  | object {hs gs fs : List (String × Json)} : ArrangedFields gs fs → hs.Perm gs →
      Arranged (.object hs) (.object fs)

/-- `Arranged` over the items of two arrays. -/
inductive ArrangedItems : List Json → List Json → Prop
  | nil : ArrangedItems [] []
  | cons {k j : Json} {ks js : List Json} : Arranged k j → ArrangedItems ks js →
      ArrangedItems (k :: ks) (j :: js)

/-- `Arranged` over the fields of two objects. -/
inductive ArrangedFields : List (String × Json) → List (String × Json) → Prop
  | nil : ArrangedFields [] []
  | cons {name : String} {k j : Json} {gs fs : List (String × Json)} : Arranged k j →
      ArrangedFields gs fs → ArrangedFields ((name, k) :: gs) ((name, j) :: fs)

end

mutual

/-- A tree is an arrangement of itself. -/
theorem Arranged.refl : ∀ j : Json, j.Arranged j
  | .null => .null
  | .bool b => .bool b
  | .integer n => .integer n
  | .float x => .float x
  | .text s => .text s
  | .array items => .array (ArrangedItems.refl items)
  | .object fields => .object (ArrangedFields.refl fields) (.refl fields)

/-- Items are an arrangement of themselves. -/
theorem ArrangedItems.refl : ∀ js : List Json, ArrangedItems js js
  | [] => .nil
  | j :: rest => .cons (Arranged.refl j) (ArrangedItems.refl rest)

/-- Fields are an arrangement of themselves. -/
theorem ArrangedFields.refl : ∀ fs : List (String × Json), ArrangedFields fs fs
  | [] => .nil
  | (_, j) :: rest => .cons (Arranged.refl j) (ArrangedFields.refl rest)

end

/-- Fields with arranged values have the same names in the same order. -/
theorem ArrangedFields.names_eq : ∀ {gs fs : List (String × Json)}, ArrangedFields gs fs →
    gs.map Prod.fst = fs.map Prod.fst
  | _, _, .nil => rfl
  | _, _, .cons _ hrest => congrArg (List.cons _) hrest.names_eq

/-- A field of an arrangement stands for one of the fields that it arranges. -/
theorem ArrangedFields.exists_right : ∀ {gs fs : List (String × Json)}, ArrangedFields gs fs →
    ∀ g ∈ gs, ∃ j, (g.1, j) ∈ fs ∧ g.2.Arranged j
  | _, _, .nil => nofun
  | _, _, .cons h hrest => List.forall_mem_cons.2 ⟨⟨_, .head _, h⟩, fun g hg =>
    (hrest.exists_right g hg).imp fun _ hj => hj.imp_left (.tail _)⟩

/-- A field stands in every arrangement. -/
theorem ArrangedFields.exists_left : ∀ {gs fs : List (String × Json)}, ArrangedFields gs fs →
    ∀ f ∈ fs, ∃ k, (f.1, k) ∈ gs ∧ k.Arranged f.2
  | _, _, .nil => nofun
  | _, _, .cons h hrest => List.forall_mem_cons.2 ⟨⟨_, .head _, h⟩, fun f hf =>
    (hrest.exists_left f hf).imp fun _ hk => hk.imp_left (.tail _)⟩

mutual

/-- The fields of all objects stand in ascending order of their names, each name once. -/
def Ordered : Json → Prop
  | .null => True
  | .bool _ => True
  | .integer _ => True
  | .float _ => True
  | .text _ => True
  | .array items => OrderedItems items
  | .object fields => Fields.Ordered fields ∧ OrderedFields fields

/-- `Ordered` over the items of an array. -/
def OrderedItems : List Json → Prop
  | [] => True
  | j :: rest => j.Ordered ∧ OrderedItems rest

/-- `Ordered` over the fields of an object. -/
def OrderedFields : List (String × Json) → Prop
  | [] => True
  | (_, j) :: rest => j.Ordered ∧ OrderedFields rest

end

/-- Items are in order exactly if each of them is. -/
theorem orderedItems_iff {js : List Json} : OrderedItems js ↔ ∀ j ∈ js, j.Ordered := by
  induction js with
  | nil => simp [OrderedItems]
  | cons j rest ih => simp [OrderedItems, ih]

/-- The values of fields are in order exactly if each of them is. -/
theorem orderedFields_iff {fs : List (String × Json)} :
    OrderedFields fs ↔ ∀ f ∈ fs, f.2.Ordered := by
  induction fs with
  | nil => simp [OrderedFields]
  | cons f rest ih => rw [OrderedFields, ih, List.forall_mem_cons]

end Json

namespace Document

open Json (Arranged ArrangedItems ArrangedFields)

/-- A reader gives a value for a tree, in whatever order the fields of its objects stand. -/
def Reads {α : Type} (r : Reader α) (j : Json) (a : α) : Prop :=
  ∀ k, Arranged k j → decode r k = .ok a

section
variable {α β : Type} {r : Reader α} {j k : Json} {a : α}

/-! ## Plain kinds and lists -/

/-- After a step that succeeds, the next one goes on with what it gave. -/
theorem ok_bind {x : Except Misfit α} {f : α → Except Misfit β} {b : β} (hx : x = .ok a)
    (hf : f a = .ok b) : x >>= f = .ok b := by
  rw [hx]
  exact hf

/-- A text is read from a text. -/
theorem reads_text (s : String) : Reads asText (.text s) s := by
  rintro _ ⟨⟩
  rfl

/-- A truth value is read from a truth value. -/
theorem reads_bool (b : Bool) : Reads asBool (.bool b) b := by
  rintro _ ⟨⟩
  rfl

/-- A word for one of several choices is read as that choice. -/
theorem reads_choice {cs : Choices α} {word : String} (h : cs.named word = .ok a) :
    Reads (asChoice cs) (.text word) a := by
  rintro _ ⟨⟩
  exact h

/-- A reader followed by a map reads the image. -/
theorem Reads.map (h : Reads r j a) (f : α → β) : Reads (fun d => (r d).map f) j (f a) := by
  intro k hk
  show (decode r k).map f = _
  rw [h k hk]
  rfl

/-- From a tree other than null an optional value is read as the value. -/
theorem Reads.option (h : Reads r j a) (hj : j ≠ .null) : Reads (asOption r) j (some a) := by
  intro k hk
  have hread : (r (ofJson k)).map some = .ok (some a) := h.map some k hk
  cases hk with
  | null => exact absurd rfl hj
  | bool | integer | float | text | array | object => exact hread

section
variable {f : β → Json} {g : β → α}

/-- Items are read one by one, each in its arrangement. -/
theorem readAll_map {items : List β} (h : ∀ b ∈ items, Reads r (f b) (g b)) {ks : List Json}
    (hks : ArrangedItems ks (items.map f)) : readAll r (ofItems ks) = .ok (items.map g) := by
  induction items generalizing ks with
  | nil =>
    cases hks
    rfl
  | cons b rest ih =>
    obtain ⟨hb, hrest⟩ := List.forall_mem_cons.1 h
    cases hks with
    | cons hk hks => exact ok_bind (hb _ hk) (ok_bind (ih hrest hks) rfl)

/-- A list is read from its items. -/
theorem reads_list {items : List β} (h : ∀ b ∈ items, Reads r (f b) (g b)) :
    Reads (asList r) (.array (items.map f)) (items.map g) := by
  rintro _ ⟨⟩
  next hks => exact ok_bind (readAll_map h hks) rfl

/-! ## Free-form objects -/

/-- Fields are read one after the other. -/
theorem readEach_cons {e : String × Document} {rest : List (String × Document)}
    {as : List (String × α)} : readEach r (e :: rest) = .ok as ↔
      ∃ a bs, r e.2 = .ok a ∧ readEach r rest = .ok bs ∧ as = (e.1, a) :: bs := by
  constructor
  · intro h
    obtain ⟨name, d⟩ := e
    unfold readEach at h
    cases ha : r d with
    | error m => rw [ha] at h; cases h
    | ok a =>
      cases hbs : readEach r rest with
      | error m => rw [ha, hbs] at h; cases h
      | ok bs =>
        rw [ha, hbs] at h
        exact ⟨a, bs, rfl, rfl, (Except.ok.inj h).symm⟩
  · rintro ⟨a, bs, ha, hbs, rfl⟩
    exact ok_bind ha (ok_bind hbs rfl)

/-- Entries in another order give the values in another order. -/
theorem readEach_perm {ds es : List (String × Document)} (h : ds.Perm es) {as : List (String × α)}
    (has : readEach r es = .ok as) : ∃ bs, readEach r ds = .ok bs ∧ bs.Perm as := by
  induction h generalizing as with
  | nil => exact ⟨as, has, .refl as⟩
  | cons e _ ih =>
    obtain ⟨a, bs, ha, hbs, rfl⟩ := readEach_cons.1 has
    obtain ⟨cs, hcs, hperm⟩ := ih hbs
    exact ⟨_, readEach_cons.2 ⟨a, cs, ha, hcs, rfl⟩, hperm.cons _⟩
  | swap e f rest =>
    obtain ⟨a, bs, ha, hbs, rfl⟩ := readEach_cons.1 has
    obtain ⟨b, cs, hb, hcs, rfl⟩ := readEach_cons.1 hbs
    exact ⟨_, readEach_cons.2 ⟨b, _, hb, readEach_cons.2 ⟨a, cs, ha, hcs, rfl⟩, rfl⟩, .swap _ _ _⟩
  | trans _ _ ih ih' =>
    obtain ⟨bs, hbs, hperm⟩ := ih' has
    obtain ⟨cs, hcs, hperm'⟩ := ih hbs
    exact ⟨cs, hcs, hperm'.trans hperm⟩

/-- Fields are read one by one, each value in its arrangement. -/
theorem readEach_map {fields : List (String × β)} (h : ∀ p ∈ fields, Reads r (f p.2) (g p.2))
    {gs : List (String × Json)} (hgs : ArrangedFields gs (fields.map fun p => (p.1, f p.2))) :
    readEach r (ofFields gs) = .ok (fields.map fun p => (p.1, g p.2)) := by
  induction fields generalizing gs with
  | nil =>
    cases hgs
    rfl
  | cons p rest ih =>
    obtain ⟨hp, hrest⟩ := List.forall_mem_cons.1 h
    cases hgs with
    | cons hk hgs => exact ok_bind (hp _ hk) (ok_bind (ih hrest hgs) rfl)

/-- Fields become documents one by one. -/
theorem ofFields_eq_map (fs : List (String × Json)) :
    ofFields fs = fs.map fun f => (f.1, ofJson f.2) := by
  induction fs with
  | nil => rfl
  | cons f rest ih => rw [ofFields, ih, List.map_cons]

/-- The order of fields carries over to their documents. -/
theorem ofFields_perm {hs gs : List (String × Json)} (h : hs.Perm gs) :
    (ofFields hs).Perm (ofFields gs) := by
  rw [ofFields_eq_map, ofFields_eq_map]
  exact h.map _

/-- A free-form object is read as its fields in some order. -/
theorem exists_asPairs {fields : List (String × β)} (h : ∀ p ∈ fields, Reads r (f p.2) (g p.2))
    (hk : Arranged k (.object (fields.map fun p => (p.1, f p.2)))) :
    ∃ ps, asPairs r (ofJson k) = .ok ps ∧ ps.Perm (fields.map fun p => (p.1, g p.2)) := by
  cases hk with
  | object hgs hperm =>
    obtain ⟨ps, hps, hpsperm⟩ := readEach_perm (ofFields_perm hperm) (readEach_map h hgs)
    exact ⟨ps, ok_bind hps rfl, hpsperm⟩

end

/-! ## Any value -/

/-- Free-form fields are read by the reader of trees, each one by itself. -/
theorem asJsonFields_eq (es : List (String × Document)) : asJsonFields es = readEach asJson es := by
  induction es with
  | nil => rfl
  | cons e rest ih => rw [asJsonFields, readEach, ih]

mutual

/-- A tree in order is read from each of its arrangements. -/
theorem asJson_arranged : ∀ {k j : Json}, Arranged k j → j.Ordered → asJson (ofJson k) = .ok j
  | _, _, .null, _ => rfl
  | _, _, .bool _, _ => rfl
  | _, _, .integer _, _ => rfl
  | _, _, .float _, _ => rfl
  | _, _, .text _, _ => rfl
  | _, _, .array hks, hj => ok_bind (asJsonItems_arranged hks hj) rfl
  | _, _, .object hgs hperm, hj => by
    -- The fields are read in the order in which they stand, and put in their own order afterwards.
    have hread := asJsonFields_arranged hgs hj.2
    rw [asJsonFields_eq] at hread
    obtain ⟨ps, hps, hpsperm⟩ := readEach_perm (ofFields_perm hperm) hread
    rw [← asJsonFields_eq] at hps
    refine ok_bind hps (ok_bind rfl ?_)
    rw [Fields.ofList_eq hpsperm hj.1]

/-- Items in order are read from each of their arrangements. -/
theorem asJsonItems_arranged : ∀ {ks js : List Json}, ArrangedItems ks js → Json.OrderedItems js →
    asJsonItems (ofItems ks) = .ok js
  | _, _, .nil, _ => rfl
  | _, _, .cons hk hks, hj =>
    ok_bind (asJson_arranged hk hj.1) (ok_bind (asJsonItems_arranged hks hj.2) rfl)

/-- Fields with values in order are read from arrangements of these. -/
theorem asJsonFields_arranged : ∀ {gs fs : List (String × Json)}, ArrangedFields gs fs →
    Json.OrderedFields fs → asJsonFields (ofFields gs) = .ok fs
  | _, _, .nil, _ => rfl
  | _, _, .cons hk hgs, hj =>
    ok_bind (asJson_arranged hk hj.1) (ok_bind (asJsonFields_arranged hgs hj.2) rfl)

end

/-- An ordered tree is read as itself. -/
theorem reads_json (h : j.Ordered) : Reads asJson j j := fun _ hk => asJson_arranged hk h

end

/-! ## Records -/

/-- A field of a record as it is written: its name, its reader, the tree that stands there unless
the field is left out, and what the reader reads from it. -/
structure Member where
  {α : Type}
  name : String
  reader : Reader α
  written : Option Json
  value : α
  reads : ∀ j, written = some j → Reads reader j value

namespace Member

/-- The slot of a member. -/
def slot (m : Member) : Slot := Document.slot m.name m.reader

/-- A field that is always written. -/
def given {α : Type} (name : String) {r : Reader α} {j : Json} {a : α} (h : Reads r j a) : Member :=
  ⟨name, r, some j, a, fun _ hj => Option.some_inj.1 hj ▸ h⟩

/-- A field that is written if it is set. -/
def option {α β : Type} (name : String) (r : Reader α) (o : Option β) (f : β → Json) (g : β → α)
    (h : ∀ b ∈ o, Reads r (f b) (g b) ∧ f b ≠ .null) : Member :=
  ⟨name, asOption r, o.map f, o.map g, fun j hj => by
    obtain ⟨b, rfl, rfl⟩ := Option.map_eq_some_iff.1 hj
    exact (h b rfl).1.option (h b rfl).2⟩

/-- A list that is written unless it is empty. -/
def list {α β : Type} (name : String) (r : Reader α) (items : List β) (f : β → Json) (g : β → α)
    (h : ∀ b ∈ items, Reads r (f b) (g b)) : Member :=
  ⟨name, asList r, if items.isEmpty then none else some (.array (items.map f)), items.map g,
    fun j hj => by
      split at hj
      · cases hj
      · obtain rfl := Option.some_inj.1 hj
        exact reads_list h⟩

end Member

/-- The fields that members write. -/
def written (members : List Member) : List (String × Json) :=
  members.filterMap fun m => m.written.map fun j => (m.name, j)

/-- A record gives what a member has written, or says that nothing has been written. -/
structure Record.Gives (rec : Record) (m : Member) : Prop where
  written : m.written.isSome → ∀ absent, rec.field m.name m.reader absent = .ok m.value
  omitted : m.written = none → ∀ absent,
    rec.field m.name m.reader absent = absent (.missingField m.name)

namespace Record.Gives

variable {rec : Record} {m : Member}

/-- A member that is written is found where it is required. -/
theorem require (h : rec.Gives m) (hm : m.written.isSome) :
    rec.require m.name m.reader = .ok m.value := h.written hm _

/-- A member that may be left out is found, or its default if it was left out. -/
theorem optional (h : rec.Gives m) {default : m.α} (hm : m.written = none → m.value = default) :
    rec.optional m.name m.reader default = .ok m.value := by
  cases hwritten : m.written with
  | none => rw [Record.optional, h.omitted hwritten, hm hwritten]
  | some j => exact h.written (by rw [hwritten]; rfl) _

variable {α β : Type} {name : String} {r : Reader α} {f : β → Json} {g : β → α}

/-- A member that is left out if it is not set is read as it was. -/
theorem option {o : Option β} {h : ∀ b ∈ o, Reads r (f b) (g b) ∧ f b ≠ .null}
    (hgives : rec.Gives (.option name r o f g h)) :
    rec.optional name (asOption r) none = .ok (o.map g) :=
  hgives.optional fun homitted => by
    cases o with
    | none => rfl
    | some => cases homitted

/-- A list that is left out if it is empty is read as it was. -/
theorem list {items : List β} {h : ∀ b ∈ items, Reads r (f b) (g b)}
    (hgives : rec.Gives (.list name r items f g h)) :
    rec.optional name (asList r) [] = .ok (items.map g) :=
  hgives.optional fun homitted => by
    cases items with
    | nil => rfl
    | cons => cases homitted

end Record.Gives

section
variable {α β : Type} {name : String} {r : Reader α} {f : β → Json} {g : β → α}
  {members : List Member}

@[simp] theorem Member.name_given {j : Json} {a : α} (h : Reads r j a) :
    (given name h).name = name := rfl

@[simp] theorem Member.name_option {o : Option β} (h : ∀ b ∈ o, Reads r (f b) (g b) ∧ f b ≠ .null) :
    (option name r o f g h).name = name := rfl

@[simp] theorem Member.name_list {items : List β} (h : ∀ b ∈ items, Reads r (f b) (g b)) :
    (list name r items f g h).name = name := rfl

@[simp] theorem written_nil : written [] = [] := rfl

@[simp] theorem written_given {j : Json} {a : α} (h : Reads r j a) :
    written (.given name h :: members) = (name, j) :: written members := rfl

@[simp] theorem written_option {o : Option β} (h : ∀ b ∈ o, Reads r (f b) (g b) ∧ f b ≠ .null) :
    written (.option name r o f g h :: members) =
      (o.map fun b => (name, f b)).toList ++ written members := by
  cases o <;> rfl

@[simp] theorem written_list {items : List β} (h : ∀ b ∈ items, Reads r (f b) (g b)) :
    written (.list name r items f g h :: members) =
      (if items.isEmpty then [] else [(name, .array (items.map f))]) ++ written members := by
  cases items <;> rfl

/-- The written fields are those of the members that are not left out. -/
theorem mem_written {f : String × Json} :
    f ∈ written members ↔ ∃ m ∈ members, m.name = f.1 ∧ m.written = some f.2 := by
  obtain ⟨name, j⟩ := f
  simp [written, and_comm]

/-- The written names are among those of the members, in their order. -/
theorem written_sublist (members : List Member) :
    ((written members).map Prod.fst).Sublist (members.map Member.name) := by
  induction members with
  | nil => exact .slnil
  | cons m rest ih =>
    cases hm : m.written with
    | none => simpa [written, hm] using ih.cons m.name
    | some j => simpa [written, hm] using ih

/-- Among things with different keys, one is found by its key. -/
theorem find?_key {α : Type*} {key : α → String} {xs : List α} {x : α} (h : (xs.map key).Nodup)
    (hx : x ∈ xs) : xs.find? (fun y => key y == key x) = some x := by
  induction xs with
  | nil => cases hx
  | cons y rest ih =>
    obtain ⟨hy, hrest⟩ := List.nodup_cons.1 h
    obtain rfl | hx := List.mem_cons.1 hx
    · exact List.find?_cons_of_pos (beq_self_eq_true _)
    · have hne : (key y == key x) = false :=
        beq_eq_false_iff_ne.2 fun heq => hy (heq ▸ List.mem_map_of_mem hx)
      rw [List.find?_cons, hne]
      exact ih hrest hx

/-- The slot that a member is collected under is its own. -/
theorem find?_slot (h : (members.map Member.name).Nodup) {m : Member} (hm : m ∈ members) :
    (members.map Member.slot).find? (fun s => s.name == m.name || s.aliases.contains m.name) =
      some m.slot := by
  have hown : (fun s : Slot => s.name == m.name || s.aliases.contains m.name) ∘ Member.slot =
      fun m' : Member => m'.name == m.name := funext fun m' => Bool.or_false _
  rw [List.find?_map, hown, find?_key h hm]
  rfl

/-- Fields of known names with good values are collected as they stand. -/
theorem collect_eq {slots : List Slot} {ds seen : List (String × Document)}
    (hnodup : (ds.map Prod.fst).Nodup) (hseen : ∀ p ∈ seen, p.1 ∉ ds.map Prod.fst)
    (hslot : ∀ d ∈ ds, ∃ s,
      slots.find? (fun s => s.name == d.1 || s.aliases.contains d.1) = some s ∧
      s.name = d.1 ∧ s.check d.2 = .ok ()) :
    collect slots seen ds = .ok ds := by
  -- The names that have been seen grow along the fields, and stay apart from those to come.
  induction ds generalizing seen with
  | nil => rfl
  | cons d rest ih =>
    obtain ⟨name, d⟩ := d
    obtain ⟨⟨s, hfind, hname, hcheck⟩, hrest⟩ := List.forall_mem_cons.1 hslot
    obtain ⟨hfresh, hdistinct⟩ := List.nodup_cons.1 hnodup
    obtain rfl : s.name = name := hname
    have hnew : ¬seen.any (·.1 == s.name) = true := by
      simp only [List.any_eq_true, beq_iff_eq, not_exists, not_and]
      exact fun p hp heq => hseen p hp (heq ▸ List.mem_cons_self)
    have hseen' : ∀ p ∈ (s.name, d) :: seen, p.1 ∉ rest.map Prod.fst :=
      List.forall_mem_cons.2 ⟨hfresh, fun p hp hmem => hseen p hp (.tail _ hmem)⟩
    unfold collect
    simp only [hfind, hnew]
    exact ok_bind hcheck (ok_bind (ih hdistinct hseen' hrest) rfl)

section
variable {hs gs : List (String × Json)} (h : (members.map Member.name).Nodup)
  (hgs : ArrangedFields gs (written members)) (hperm : hs.Perm gs)

include hgs hperm

/-- A document has the names that were written. -/
theorem names_perm : ((ofFields hs).map Prod.fst).Perm ((written members).map Prod.fst) := by
  rw [ofFields_eq_map, List.map_map, ← hgs.names_eq]
  exact hperm.map Prod.fst

/-- Each field of a document was written by a member. -/
theorem exists_member {f : String × Json} (hf : f ∈ hs) :
    ∃ m ∈ members, m.name = f.1 ∧ ∃ j, m.written = some j ∧ Arranged f.2 j := by
  obtain ⟨j, hj, hfj⟩ := hgs.exists_right f (hperm.mem_iff.1 hf)
  obtain ⟨m, hm, hname, hwritten⟩ := mem_written.1 hj
  exact ⟨m, hm, hname, j, hwritten, hfj⟩

include h

/-- No name occurs twice in a document. -/
theorem nodup_names : ((ofFields hs).map Prod.fst).Nodup :=
  (names_perm hgs hperm).nodup_iff.2 ((written_sublist members).nodup h)

/-- The reader of a member reads its field in the document. -/
theorem reader_eq {m : Member} {f : String × Json} (hm : m ∈ members) (hf : f ∈ hs)
    (hname : m.name = f.1) : m.reader (ofJson f.2) = .ok m.value := by
  obtain ⟨m', hm', hname', j, hwritten, hfj⟩ := exists_member hgs hperm hf
  obtain rfl := List.inj_on_of_nodup_map h hm hm' (hname.trans hname'.symm)
  exact m.reads j hwritten f.2 hfj

/-- The slots of the members take up all fields of the document. -/
theorem collect_ofFields :
    collect (members.map Member.slot) [] (ofFields hs) = .ok (ofFields hs) := by
  refine collect_eq (nodup_names h hgs hperm) nofun fun d hd => ?_
  rw [ofFields_eq_map] at hd
  obtain ⟨f, hf, rfl⟩ := List.mem_map.1 hd
  obtain ⟨m, hm, hname, -⟩ := exists_member hgs hperm hf
  refine ⟨m.slot, hname ▸ find?_slot h hm, hname, ?_⟩
  show (m.reader (ofJson f.2)).map _ = _
  rw [reader_eq h hgs hperm hm hf hname]
  rfl

/-- The document gives each member its value. -/
theorem gives_ofFields {m : Member} (hm : m ∈ members) : (Record.named (ofFields hs)).Gives m where
  written hwritten absent := by
    obtain ⟨j, hj⟩ := Option.isSome_iff_exists.1 hwritten
    obtain ⟨k, hk, -⟩ := hgs.exists_left (m.name, j) (mem_written.2 ⟨m, hm, rfl, hj⟩)
    have hfound : (m.name, ofJson k) ∈ ofFields hs := by
      rw [ofFields_eq_map]
      exact List.mem_map.2 ⟨_, hperm.mem_iff.2 hk, rfl⟩
    have hfind : (ofFields hs).find? (·.1 == m.name) = some (m.name, ofJson k) :=
      find?_key (nodup_names h hgs hperm) hfound
    rw [Record.field, hfind]
    exact reader_eq h hgs hperm hm (hperm.mem_iff.2 hk) rfl
  omitted hwritten absent := by
    have hfind : (ofFields hs).find? (·.1 == m.name) = none := by
      rw [List.find?_eq_none]
      intro d hd heq
      rw [ofFields_eq_map] at hd
      obtain ⟨f, hf, rfl⟩ := List.mem_map.1 hd
      obtain ⟨m', hm', hname, j, hj, -⟩ := exists_member hgs hperm hf
      obtain rfl := List.inj_on_of_nodup_map h hm' hm (hname.trans (beq_iff_eq.1 heq))
      cases hwritten.symm.trans hj
    rw [Record.field, hfind]

end

/-- What a reader of records reads is what it makes of the members. -/
theorem reads_record {α : Type} (members : List Member) (title : String)
    {r : Record → Except Misfit α} {a : α} (h : (members.map Member.name).Nodup)
    (hr : ∀ rec : Record, members.Forall rec.Gives → rec.finish = .ok () → r rec = .ok a) :
    Reads (fun d => asRecord title (members.map Member.slot) d >>= r)
      (.object (written members)) a := by
  intro k hk
  cases hk with
  | @object hs gs _ hgs hperm =>
    have hrecord : asRecord title (members.map Member.slot) (ofJson (.object hs)) =
        .ok (.named (ofFields hs)) := ok_bind (collect_ofFields h hgs hperm) rfl
    have hgives := List.forall_iff_forall_mem.2 fun m hm => gives_ofFields h hgs hperm hm
    exact ok_bind hrecord (hr _ hgives rfl)

end

end Document

end RowAudit
