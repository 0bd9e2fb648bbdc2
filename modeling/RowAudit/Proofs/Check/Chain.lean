import RowAudit.Check.Chain
import RowAudit.Proofs.Formula.Agreement

/-!
# What a chain of conditions says

A chain is gone through condition by condition (`Chain.Reached`): a condition is skipped if its
connective settles the verdict on those before it, and is checked otherwise, the first one always.
The verdict is the fold of the conditions' verdicts from left to right (`Chain.Reached.running_eq`),
in which the verdicts of skipped conditions have no say. While the verdict is negative, the chain
keeps the failure of one condition, the first one to be checked since a condition last passed
(`Chain.Kept`).
-/

namespace RowAudit

/-- Checks the row with a condition, and gives the memo after that. -/
def Link.run (l : Link Prepared) (ctx : Context) (row : Row) (m : Memo) :
    Except Problem Outcome × Memo :=
  ExceptT.run (l.check.judge l.column ctx row) m

/-- A failing outcome of a condition as the chain reports it: on its own column, or else on that of
the condition. -/
def Link.report (l : Link Prepared) (o : Outcome) : Outcome := o.onColumn (o.column.getD l.column)

namespace Chain

/-! ## Going through a chain -/

/-- Whether the condition at a position is skipped, given the verdict on the conditions before
it. -/
def skips (chain : Chain Prepared) (running : Bool) : Nat → Bool
  | 0 => false
  | i + 1 => (chain[i]?.bind fun l => l.connective.settled? running).isSome

/-- The verdict on the first conditions of a chain: that on the first condition is joined to the
second one, the result to the third one, and so on. -/
def fold (chain : Chain Prepared) (verdict : Nat → Bool) : Nat → Bool
  | 0 => true
  | 1 => verdict 0
  | i + 2 =>
    match chain[i]? with
    | some l => l.connective.combine (fold chain verdict (i + 1)) (verdict (i + 1))
    | none => false

/-- How far a chain can have been gone through: what each condition has said, or nothing if it was
skipped, and the verdict and the memo after that. -/
inductive Reached (chain : Chain Prepared) (ctx : Context) (row : Row) (start : Memo) :
    List (Option Outcome) → Bool → Memo → Prop
  | start : Reached chain ctx row start [] true start
  | skip {said : List (Option Outcome)} {running : Bool} {m : Memo} :
      Reached chain ctx row start said running m → said.length < chain.length →
      chain.skips running said.length = true →
      Reached chain ctx row start (said ++ [none]) running m
  | check {said : List (Option Outcome)} {running : Bool} {m m' : Memo} {l : Link Prepared}
      {o : Outcome} :
      Reached chain ctx row start said running m → chain[said.length]? = some l →
      chain.skips running said.length = false → l.run ctx row m = (.ok o, m') →
      Reached chain ctx row start (said ++ [some o]) o.isValid m'

/-- Before a given position a condition passed, unless it is the first one, and since then all
conditions have been skipped. -/
structure Clear (said : List (Option Outcome)) (start : Nat) : Prop where
  le : start ≤ said.length
  passed : start = 0 ∨ ∃ o, said[start - 1]? = some (some o) ∧ o.isValid = true
  skipped : ∀ j, start ≤ j → j < said.length → said[j]? = some none

/-- The failure of a condition decides a chain: of the conditions that have been checked since one
last passed, it is the first. -/
structure Decides (said : List (Option Outcome)) (i : Nat) (o : Outcome) : Prop where
  checked : said[i]? = some (some o)
  fails : o.isValid = false
  first : ∃ start, Clear (said.take i) start
  last : ∀ j o', i < j → said[j]? = some (some o') → o'.isValid = false

/-- An outcome is what the conditions of a chain amount to. -/
structure Concludes (chain : Chain Prepared) (said : List (Option Outcome)) (o : Outcome) :
    Prop where
  verdict : ∀ v : Nat → Bool, (∀ i o', said[i]? = some (some o') → v i = o'.isValid) →
    o.isValid = chain.fold v chain.length
  passing : o.isValid = true → o = .pass
  failing : o.isValid = false → ∃ i l f, chain[i]? = some l ∧ Decides said i f ∧ o = l.report f

section
variable {chain : Chain Prepared} {ctx : Context} {row : Row} {start m m' : Memo}
  {said : List (Option Outcome)} {running : Bool} {failure : Option Outcome} {i : Nat}
  {f o : Outcome}

/-- What a condition has said stays said. -/
theorem getElem?_append_said {x y : Option Outcome} (h : said[i]? = some x) :
    (said ++ [y])[i]? = some x := by
  rw [List.getElem?_append_left (List.getElem?_eq_some_iff.1 h).1, h]

/-! ## The verdict -/

/-- A settled verdict is the one before. -/
theorem settled?_eq {c : Connective} {a v : Bool} (h : c.settled? a = some v) : v = a := by
  cases c <;> cases a <;> simp_all [Connective.settled?]

/-- Where the verdict is not settled, the next condition decides it. -/
theorem combine_of_not_settled {c : Connective} {a : Bool} (h : c.settled? a = none) (b : Bool) :
    c.combine a b = b := by
  cases c <;> cases a <;> simp_all [Connective.settled?, Connective.combine]

/-- The verdict on the conditions so far is the fold of their verdicts, whatever verdicts the
skipped ones are taken to have. -/
theorem Reached.running_eq (h : chain.Reached ctx row start said running m) {v : Nat → Bool}
    (hv : ∀ i o, said[i]? = some (some o) → v i = o.isValid) :
    running = chain.fold v said.length := by
  induction h with
  | start => rfl
  | @skip said running m _ _ hskips ih =>
    have hrunning := ih fun i o ho => hv i o (getElem?_append_said ho)
    rw [List.length_append, List.length_singleton]
    cases hlength : said.length with
    | zero => simp [hlength, skips] at hskips
    | succ i =>
      rw [hlength] at hskips hrunning
      obtain ⟨verdict, hverdict⟩ := Option.isSome_iff_exists.1 hskips
      obtain ⟨l, hl, hsettled⟩ := Option.bind_eq_some_iff.1 hverdict
      rw [settled?_eq hsettled] at hsettled
      simp only [fold, hl, ← hrunning, Connective.combine_of_settled hsettled]
  | @check said running m m' l o _ hl hskips _ ih =>
    have hrunning := ih fun i o ho => hv i o (getElem?_append_said ho)
    have hverdict : v said.length = o.isValid := hv _ _ (by simp)
    rw [List.length_append, List.length_singleton, ← hverdict]
    cases hlength : said.length with
    | zero => rfl
    | succ i =>
      rw [hlength] at hskips hrunning hl
      have hbefore : i < chain.length := Nat.lt_of_succ_lt (List.getElem?_eq_some_iff.1 hl).1
      have hsettled : chain[i].connective.settled? running = none := by
        simpa [skips, List.getElem?_eq_getElem hbefore] using hskips
      simp only [fold, List.getElem?_eq_getElem hbefore, ← hrunning,
        combine_of_not_settled hsettled]

/-! ## The failure that is kept -/

/-- The start of a chain is clear. -/
theorem clear_nil : Clear [] 0 :=
  ⟨Nat.le_refl 0, .inl rfl, fun _ _ h => absurd h (Nat.not_lt_zero _)⟩

/-- What is clear stays clear when a condition is skipped. -/
theorem Clear.skip {first : Nat} (h : Clear said first) : Clear (said ++ [none]) first where
  le := Nat.le_trans h.le (by simp)
  passed := h.passed.imp_right fun ⟨o, ho, hvalid⟩ => ⟨o, getElem?_append_said ho, hvalid⟩
  skipped j hstart hj := by
    obtain hlt | rfl : j < said.length ∨ j = said.length := by simp at hj; omega
    · exact getElem?_append_said (h.skipped j hstart hlt)
    · simp

/-- Behind a condition that passed the chain is clear. -/
theorem clear_of_valid (hvalid : o.isValid = true) :
    Clear (said ++ [some o]) (said.length + 1) where
  le := by simp
  passed := .inr ⟨o, by simp, hvalid⟩
  skipped j hstart hj := by simp at hj; omega

/-- The first condition to fail since one last passed decides. -/
theorem Clear.decides {first : Nat} (h : Clear said first) (hfails : o.isValid = false) :
    Decides (said ++ [some o]) said.length o where
  checked := by simp
  fails := hfails
  first := ⟨first, by simpa using h⟩
  last j o' hj ho' := by
    have := (List.getElem?_eq_some_iff.1 ho').1
    simp at this
    omega

/-- A failure goes on to decide as long as no condition passes. -/
theorem Decides.append {x : Option Outcome} (h : Decides said i f)
    (hx : ∀ o, x = some o → o.isValid = false) : Decides (said ++ [x]) i f where
  checked := getElem?_append_said h.checked
  fails := h.fails
  first := by
    have hle : i ≤ said.length := Nat.le_of_lt (List.getElem?_eq_some_iff.1 h.checked).1
    rw [List.take_append_of_le_length hle]
    exact h.first
  last j o hj ho := by
    have hlength := (List.getElem?_eq_some_iff.1 ho).1
    obtain hlt | rfl : j < said.length ∨ j = said.length := by simp at hlength; omega
    · rw [List.getElem?_append_left hlt] at ho
      exact h.last j o hj ho
    · exact hx o (by simpa using ho)

/-- The failure that a chain keeps beside a verdict: none as long as it is positive, and otherwise
the one that decides. -/
def Kept (chain : Chain Prepared) (said : List (Option Outcome)) : Bool → Option Outcome → Prop
  | true, failure => failure = none ∧ ∃ start, Clear said start
  | false, failure => ∃ i l f, chain[i]? = some l ∧ Decides said i f ∧ failure = some (l.report f)

/-- A skipped condition leaves the failure that is kept. -/
theorem Kept.skip (h : Kept chain said running failure) :
    Kept chain (said ++ [none]) running failure := by
  cases running with
  | true =>
    obtain ⟨hfailure, start, hclear⟩ := h
    exact ⟨hfailure, start, hclear.skip⟩
  | false =>
    obtain ⟨i, l, f, hl, hdecides, hfailure⟩ := h
    exact ⟨i, l, f, hl, hdecides.append nofun, hfailure⟩

/-- Beside the verdict of a checked condition no failure is kept if it passed, and otherwise the one
before, or else its own. -/
theorem Kept.check {l : Link Prepared} (h : Kept chain said running failure)
    (hl : chain[said.length]? = some l) :
    Kept chain (said ++ [some o]) o.isValid (reported l.column failure o) := by
  unfold reported
  cases hvalid : o.isValid with
  | true => exact ⟨rfl, said.length + 1, clear_of_valid hvalid⟩
  | false =>
    cases running with
    | true =>
      obtain ⟨rfl, start, hclear⟩ := h
      exact ⟨said.length, l, o, hl, hclear.decides hvalid, rfl⟩
    | false =>
      obtain ⟨i, l', f, hl', hdecides, rfl⟩ := h
      refine ⟨i, l', f, hl', hdecides.append ?_, rfl⟩
      rintro o' ⟨⟩
      exact hvalid

/-- At most one condition decides. -/
theorem Decides.not_lt {j : Nat} {g : Outcome} (hf : Decides said i f) (hg : Decides said j g) :
    ¬i < j := by
  intro hij
  obtain ⟨first, hclear⟩ := hg.first
  have htake : (said.take j)[i]? = some (some f) := by
    rw [List.getElem?_take_of_lt hij, hf.checked]
  have hfirst : i < first := by
    refine Nat.lt_of_not_le fun hle => ?_
    rw [hclear.skipped i hle (List.getElem?_eq_some_iff.1 htake).1] at htake
    cases htake
  obtain rfl | ⟨o, ho, hvalid⟩ := hclear.passed
  · exact Nat.not_lt_zero i hfirst
  · obtain rfl | hlt : first - 1 = i ∨ i < first - 1 := by omega
    · obtain rfl : o = f := by simpa using ho.symm.trans htake
      exact absurd hvalid (by simp [hf.fails])
    · have hchecked := ho
      rw [List.getElem?_take_of_lt (by have := hclear.le; simp at this; omega)] at hchecked
      exact absurd hvalid (by simp [hf.last _ o hlt hchecked])

/-- The conditions of a chain amount to one outcome. -/
theorem Concludes.unique {o' : Outcome} (h : chain.Concludes said o)
    (h' : chain.Concludes said o') :
    o = o' := by
  have hverdict : o.isValid = o'.isValid := by
    have hv (i : Nat) (o : Outcome) (ho : said[i]? = some (some o)) :
        (said[i]?.bind id).any Outcome.isValid = o.isValid := by simp [ho]
    rw [h.verdict _ hv, h'.verdict _ hv]
  cases hvalid : o.isValid with
  | true => rw [h.passing hvalid, h'.passing (hverdict ▸ hvalid)]
  | false =>
    obtain ⟨i, l, f, hl, hf, rfl⟩ := h.failing hvalid
    obtain ⟨j, l', g, hl', hg, rfl⟩ := h'.failing (hverdict ▸ hvalid)
    obtain rfl : i = j :=
      Nat.le_antisymm (Nat.le_of_not_lt (hg.not_lt hf)) (Nat.le_of_not_lt (hf.not_lt hg))
    obtain rfl : l = l' := by simpa [hl] using hl'
    obtain rfl : f = g := by simpa [hf.checked] using hg.checked
    rfl

/-! ## Runs -/

/-- No chain is gone through beyond its end. -/
theorem Reached.length_le (h : chain.Reached ctx row start said running m) :
    said.length ≤ chain.length := by
  cases h with
  | start => exact Nat.zero_le _
  | skip _ hlt _ => rw [List.length_append]; exact hlt
  | check _ hl _ _ => rw [List.length_append]; exact (List.getElem?_eq_some_iff.1 hl).1

/-- Once all conditions have been gone through, the failure that is kept is the outcome. -/
theorem Kept.concludes (hkept : Kept chain said running failure)
    (hreached : chain.Reached ctx row start said running m) (hlength : said.length = chain.length) :
    chain.Concludes said
      (if running then .pass else failure.getD (.fail "Column conditions not satisfied")) := by
  have hrunning (v : Nat → Bool) (hv : ∀ i o, said[i]? = some (some o) → v i = o.isValid) :
      running = chain.fold v chain.length := hlength ▸ hreached.running_eq hv
  cases running with
  | true => exact ⟨hrunning, fun _ => rfl, nofun⟩
  | false =>
    obtain ⟨i, l, f, hl, hdecides, rfl⟩ := hkept
    have hfails : (l.report f).isValid = false := hdecides.fails
    exact ⟨fun v hv => hfails.trans (hrunning v hv), fun h => absurd h (by simp [hfails]),
      fun _ => ⟨i, l, f, hl, hdecides, rfl⟩⟩

/-- Goes on along a chain from a position. -/
def resume (chain : Chain Prepared) (ctx : Context) (row : Row) (before : Connective)
    (running : Bool)
    (failure : Option Outcome) (i : Nat) (m : Memo) : Except Problem Outcome × Memo :=
  ExceptT.run
    (judgeFrom (fun column p => p.judge column ctx row) before running failure (chain.drop i)) m

/-- At the end of a chain the verdict becomes an outcome. -/
theorem resume_length (before : Connective) :
    chain.resume ctx row before running failure chain.length m =
      (.ok (if running then .pass else failure.getD (.fail "Column conditions not satisfied")),
        m) := by
  rw [resume, List.drop_length]
  rfl

/-- At a condition that is skipped a chain goes on with the verdict and the failure that it has. -/
theorem resume_skip {l : Link Prepared} {before : Connective} (hl : chain[i]? = some l)
    (hskips : (before.settled? running).isSome = true) :
    chain.resume ctx row before running failure i m =
      chain.resume ctx row l.connective running failure (i + 1) m := by
  obtain ⟨hi, rfl⟩ := List.getElem?_eq_some_iff.1 hl
  obtain ⟨verdict, hsettled⟩ := Option.isSome_iff_exists.1 hskips
  rw [resume, List.drop_eq_getElem_cons hi, judgeFrom, hsettled, settled?_eq hsettled]
  rfl

/-- At a condition that is checked a chain goes on with what it says, or fails as it does. -/
theorem resume_check {l : Link Prepared} {before : Connective} (hl : chain[i]? = some l)
    (hskips : (before.settled? running).isSome = false) :
    chain.resume ctx row before running failure i m =
      match l.run ctx row m with
      | (.ok o, m') =>
        chain.resume ctx row l.connective o.isValid (reported l.column failure o) (i + 1) m'
      | (.error p, m') => (.error p, m') := by
  obtain ⟨hi, rfl⟩ := List.getElem?_eq_some_iff.1 hl
  have hsettled : before.settled? running = none := by simpa using hskips
  rw [resume, List.drop_eq_getElem_cons hi, judgeFrom, hsettled]
  refine (Formula.run_bind_eq _ _ _).trans ?_
  rw [Link.run]
  cases ExceptT.run ((chain[i]).check.judge (chain[i]).column ctx row) m with
  | mk result m' => cases result <;> rfl

/-- Where a chain can have been gone through to some condition, its check is what remains from there
on, with the failure that is kept. -/
theorem Reached.run_eq (h : chain.Reached ctx row start said running m) :
    ∃ before failure, Kept chain said running failure ∧
      chain.skips running said.length = (before.settled? running).isSome ∧
      ExceptT.run (chain.judge ctx row) start =
        chain.resume ctx row before running failure said.length m := by
  induction h with
  | start => exact ⟨.and, none, ⟨rfl, 0, clear_nil⟩, rfl, rfl⟩
  | @skip said running m _ hlt hskips ih =>
    obtain ⟨before, failure, hkept, hbefore, hrun⟩ := ih
    have hl := List.getElem?_eq_getElem hlt
    refine ⟨chain[said.length].connective, failure, hkept.skip, ?_, ?_⟩
    · simp [skips, hl]
    · rw [hrun, resume_skip hl (hbefore ▸ hskips), List.length_append]
      rfl
  | @check said running m m' l o _ hl hskips hcheck ih =>
    obtain ⟨before, failure, hkept, hbefore, hrun⟩ := ih
    refine ⟨l.connective, reported l.column failure o, hkept.check hl, ?_, ?_⟩
    · simp [skips, hl]
    · rw [hrun, resume_check hl (hbefore ▸ hskips), hcheck, List.length_append]
      rfl

/-- A condition that is not skipped is the first one that fails to give an outcome. -/
def FailsFirst (chain : Chain Prepared) (ctx : Context) (row : Row) (start : Memo) (p : Problem)
    (m' : Memo) : Prop :=
  ∃ said running m l, chain.Reached ctx row start said running m ∧ chain[said.length]? = some l ∧
    chain.skips running said.length = false ∧ l.run ctx row m = (.error p, m')

/-- A chain can be gone through to its end, or to a condition that fails to give an outcome. -/
theorem Reached.exists_end (h : chain.Reached ctx row start said running m) (n : Nat)
    (hn : said.length + n = chain.length) :
    (∃ p m', chain.FailsFirst ctx row start p m') ∨
      ∃ said running m, chain.Reached ctx row start said running m ∧
        said.length = chain.length := by
  induction n generalizing said running m with
  | zero => exact .inr ⟨said, running, m, h, hn⟩
  | succ n ih =>
    have hlt : said.length < chain.length := by omega
    have hl := List.getElem?_eq_getElem hlt
    have hnext (x : Option Outcome) : (said ++ [x]).length + n = chain.length := by simp; omega
    cases hskips : chain.skips running said.length with
    | true => exact ih (h.skip hlt hskips) (hnext none)
    | false =>
      cases hrun : (chain[said.length]).run ctx row m with
      | mk result m' =>
        cases result with
        | ok o => exact ih (h.check hl hskips hrun) (hnext (some o))
        | error p => exact .inl ⟨p, m', said, running, m, _, h, hl, hskips, hrun⟩

/-- The first condition that fails to give an outcome fails the chain. -/
theorem FailsFirst.run_eq {p : Problem} (h : chain.FailsFirst ctx row start p m') :
    ExceptT.run (chain.judge ctx row) start = (.error p, m') := by
  obtain ⟨said, running, m, l, hreached, hl, hskips, hcheck⟩ := h
  obtain ⟨before, failure, -, hbefore, hrun⟩ := hreached.run_eq
  rw [hrun, resume_check hl (hbefore ▸ hskips), hcheck]

/-- A chain that has been gone through to its end has the outcome that its conditions amount to. -/
theorem Reached.exists_concludes (h : chain.Reached ctx row start said running m)
    (hlength : said.length = chain.length) :
    ∃ o, ExceptT.run (chain.judge ctx row) start = (.ok o, m) ∧ chain.Concludes said o := by
  obtain ⟨before, failure, hkept, -, hrun⟩ := h.run_eq
  rw [hlength, resume_length] at hrun
  exact ⟨_, hrun, hkept.concludes h hlength⟩

end

/-- A chain fails to give an outcome if and only if a condition that is not skipped does, and then
because of the first one that does. Otherwise all its conditions have been checked or skipped, its
outcome is positive if and only if their verdicts fold to true, and it is then a plain pass; a
negative outcome is that of the condition that decides. A chain without conditions passes. -/
theorem judge_concludes (chain : Chain Prepared) (ctx : Context) (row : Row) (m : Memo) :
    (∀ p m', ExceptT.run (chain.judge ctx row) m = (.error p, m') ↔
      chain.FailsFirst ctx row m p m') ∧
    (∀ o m', ExceptT.run (chain.judge ctx row) m = (.ok o, m') ↔
      ∃ said running, chain.Reached ctx row m said running m' ∧ said.length = chain.length ∧
        chain.Concludes said o) ∧
    ExceptT.run (judge [] ctx row) m = (.ok .pass, m) := by
  have hstart : chain.Reached ctx row m [] true m := .start
  have hend := hstart.exists_end chain.length (Nat.zero_add _)
  refine ⟨fun p m' => ⟨fun h => ?_, FailsFirst.run_eq⟩, fun o m' => ⟨fun h => ?_, ?_⟩, rfl⟩
  · obtain ⟨p', m'', hfails⟩ | ⟨said, running, m'', hreached, hlength⟩ := hend
    · obtain ⟨⟨⟩, rfl⟩ := Prod.mk.inj (h.symm.trans hfails.run_eq)
      exact hfails
    · obtain ⟨o, hrun, -⟩ := hreached.exists_concludes hlength
      cases h.symm.trans hrun
  · obtain ⟨p', m'', hfails⟩ | ⟨said, running, m'', hreached, hlength⟩ := hend
    · cases h.symm.trans hfails.run_eq
    · obtain ⟨o', hrun, hconcludes⟩ := hreached.exists_concludes hlength
      obtain ⟨⟨⟩, rfl⟩ := Prod.mk.inj (h.symm.trans hrun)
      exact ⟨said, running, hreached, hlength, hconcludes⟩
  · rintro ⟨said, running, hreached, hlength, hconcludes⟩
    obtain ⟨o', hrun, hconcludes'⟩ := hreached.exists_concludes hlength
    rw [hrun, hconcludes.unique hconcludes']

/-- A chain whose second condition would fail for want of a list, but is skipped since the first one
passes; the third one decides. -/
theorem judge_concludes_skipping :
    let chain : Chain Prepared :=
      [⟨"a", .plain .required, .or⟩, ⟨"b", .plain (.listed ⟨"none"⟩), .and⟩,
        ⟨"c", .plain .required, .or⟩]
    let ctx : Context := ⟨"rule", ⟨"table", []⟩, .empty, [], false, false,
      .startOfDay ⟨1970, 1, 1, by decide, by decide⟩⟩
    let row : Row := .ofList [("a", .bool false), ("b", .bool true)]
    ExceptT.run (chain.judge ctx row) .empty =
        (.ok ⟨false, some "c is required", some "c"⟩, Memo.empty) ∧
      ∃ said running, chain.Reached ctx row .empty said running .empty ∧
        said.length = chain.length ∧
        chain.Concludes said ⟨false, some "c is required", some "c"⟩ := by
  intro chain ctx row
  have hrun : ExceptT.run (chain.judge ctx row) .empty =
      (.ok ⟨false, some "c is required", some "c"⟩, Memo.empty) := by rfl
  exact ⟨hrun, ((judge_concludes chain ctx row .empty).2.1 _ _).1 hrun⟩

end Chain

end RowAudit
