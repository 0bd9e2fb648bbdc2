import Mathlib.Logic.Relation
import RowAudit.Proofs.Aggregation.Memo

/-!
# Callers that share a memo

A caller looks its question up, computes the value if there is none, and then keeps it unless
another caller was faster; in any case it answers with what is kept. Between these steps any number
of other callers may do theirs. The main statement says that this makes no difference to what is
kept and answered under a key: an entry never changes, all callers with one key have the same value,
which one of them has computed, and a fault is answered and not kept (`Callers.write_once`). The
counts of a memo are those of its callers.
-/

namespace RowAudit

open Formula (Fault)

/-- An aggregation over the rows of a table, as it is asked for. -/
structure Question where
  table : String
  rows : List Row
  aggregation : Aggregation

namespace Question

/-- What a memo keeps the value under. -/
def key (q : Question) : MemoKey := Memo.keyOf q.table q.aggregation

/-- The computed value. -/
def value (q : Question) : Except Fault Aggregation.Result := q.aggregation.compute q.rows

end Question

/-- How far a caller has come. -/
inductive Stage where
  | waiting
  /-- There was no value under the key. -/
  | missed
  | computed (v : Aggregation.Result)
  /-- Answered with the value that was found. -/
  | found (v : Aggregation.Result)
  /-- Answered with the fault of the computation. -/
  | failed (fault : Fault)
  /-- Answered with the value that is kept after the computation. -/
  | kept (v : Aggregation.Result)

namespace Stage

/-- The answer that has been given. -/
def answer? : Stage → Option (Except Fault Aggregation.Result)
  | found v => some (.ok v)
  | failed fault => some (.error fault)
  | kept v => some (.ok v)
  | _ => none

/-- Whether the key has been looked up. -/
def isLookedUp : Stage → Bool
  | waiting => false
  | _ => true

/-- Whether a value was found. -/
def isHit : Stage → Bool
  | found _ => true
  | _ => false

/-- Whether no value was found. -/
def isMiss : Stage → Bool
  | missed | computed _ | failed _ | kept _ => true
  | waiting | found _ => false

/-- Whether the computed value has been offered to the memo. -/
def isKept : Stage → Bool
  | kept _ => true
  | _ => false

end Stage

/-- A caller with its question. -/
structure Caller where
  question : Question
  stage : Stage

/-- What a caller does next, if it has not answered yet. -/
def Caller.advance (c : Caller) (m : Memo) : Option (Stage × Memo) :=
  match c.stage with
  | .waiting =>
    match m.find? c.question.key with
    | some v => some (.found v, { m with hits := m.hits + 1 })
    | none => some (.missed, { m with misses := m.misses + 1 })
  | .missed =>
    match c.question.value with
    | .ok v => some (.computed v, m)
    | .error fault => some (.failed fault, m)
  | .computed v =>
    let m := m.keep c.question.key v
    some (.kept ((m.find? c.question.key).getD v), m)
  | .found _ | .failed _ | .kept _ => none

/-- A memo and all callers that have asked it. -/
structure Callers where
  memo : Memo
  callers : List Caller

namespace Callers

/-- What can happen next: there is one more caller, or one of them goes on. -/
inductive Step : Callers → Callers → Prop
  | ask {m : Memo} {cs : List Caller} (q : Question) : Step ⟨m, cs⟩ ⟨m, cs ++ [⟨q, .waiting⟩]⟩
  | advance {m m' : Memo} (before after : List Caller) {q : Question} {stage : Stage}
      (stage' : Stage) : Caller.advance ⟨q, stage⟩ m = some (stage', m') →
      Step ⟨m, before ++ ⟨q, stage⟩ :: after⟩ ⟨m', before ++ ⟨q, stage'⟩ :: after⟩

/-- Nothing kept, nobody there. -/
def none : Callers := ⟨.empty, []⟩

end Callers

/-! ## One step -/

namespace Memo

variable {m : Memo} {key : MemoKey} {v : Aggregation.Result}

/-- What a memo has under a key, a memo that holds more has as well. -/
theorem find?_of_prefix {m' : Memo} (h : m.entries <+: m'.entries) (hv : m.find? key = some v) :
    m'.find? key = some v := by
  obtain ⟨e, he, rfl⟩ := Option.map_eq_some_iff.1 hv
  exact Option.map_eq_some_iff.2 ⟨e, h.find?_eq_some he, rfl⟩

/-- A value under a new key is added at the end. -/
theorem entries_keep_of_none (h : m.find? key = none) :
    (m.keep key v).entries = m.entries ++ [(key, v)] := by
  rw [keep, h]

/-- A value under a key that has one is dropped. -/
theorem keep_of_some {w : Aggregation.Result} (h : m.find? key = some w) : m.keep key v = m := by
  rw [keep, h]

/-- Keeping a value is no hit. -/
theorem hits_keep : (m.keep key v).hits = m.hits := by
  unfold keep
  split <;> rfl

/-- Keeping a value is no miss. -/
theorem misses_keep : (m.keep key v).misses = m.misses := by
  unfold keep
  split <;> rfl

/-- A key under which nothing is found is new. -/
theorem notMem_keys (h : m.find? key = none) : key ∉ m.entries.map Prod.fst := by
  intro hmem
  obtain ⟨e, he, rfl⟩ := List.mem_map.1 hmem
  exact List.find?_eq_none.1 (Option.map_eq_none_iff.1 h) e he (decide_eq_true rfl)

end Memo

namespace Caller

variable {c : Caller} {m m' : Memo} {stage : Stage}

/-- What a caller has seen agrees with its computation and with what is kept. -/
def Fits (c : Caller) (m : Memo) : Prop :=
  match c.stage with
  | .waiting | .missed => True
  | .computed v => c.question.value = .ok v
  | .found v => m.find? c.question.key = some v
  | .failed fault => c.question.value = .error fault
  | .kept v => m.find? c.question.key = some v

/-- What is kept stays what a caller has seen. -/
theorem Fits.mono (h : m.entries <+: m'.entries) (hc : c.Fits m) : c.Fits m' := by
  unfold Fits at *
  cases hstage : c.stage with
  | waiting | missed => trivial
  | computed _ | failed _ =>
    rw [hstage] at hc
    exact hc
  | found _ | kept _ =>
    rw [hstage] at hc
    exact Memo.find?_of_prefix h hc

/-- What is true of every step of a caller that comes to a stage. -/
structure Advanced (c : Caller) (m : Memo) (stage : Stage) (m' : Memo) : Prop where
  /-- At most an entry at the end is new. -/
  grows : m.entries <+: m'.entries
  fits : (⟨c.question, stage⟩ : Caller).Fits m'
  /-- A new entry holds the value of the caller. -/
  fresh : ∀ key v, m'.find? key = some v →
    m.find? key = some v ∨ c.question.key = key ∧ c.question.value = .ok v
  distinct : (m.entries.map Prod.fst).Nodup → (m'.entries.map Prod.fst).Nodup
  hits : m'.hits + c.stage.isHit.toNat = m.hits + stage.isHit.toNat
  misses : m'.misses + c.stage.isMiss.toNat = m.misses + stage.isMiss.toNat
  entries : m'.entries.length + c.stage.isKept.toNat ≤ m.entries.length + stage.isKept.toNat

/-- A step of a caller whose memory fits has all that is said of steps. -/
theorem advanced (hc : c.Fits m) (h : c.advance m = some (stage, m')) : c.Advanced m stage m' := by
  obtain ⟨q, before⟩ := c
  unfold advance at h
  cases before with
  | waiting =>
    dsimp only at h
    split at h
    · next v hfind =>
      cases h
      exact ⟨List.prefix_rfl, hfind, fun _ _ => .inl, id, rfl, rfl, Nat.le_refl _⟩
    · cases h
      exact ⟨List.prefix_rfl, trivial, fun _ _ => .inl, id, rfl, rfl, Nat.le_refl _⟩
  | missed =>
    dsimp only at h
    split at h
    · next v hvalue =>
      cases h
      exact ⟨List.prefix_rfl, hvalue, fun _ _ => .inl, id, rfl, rfl, Nat.le_refl _⟩
    · next fault hvalue =>
      cases h
      exact ⟨List.prefix_rfl, hvalue, fun _ _ => .inl, id, rfl, rfl, Nat.le_refl _⟩
  | computed v =>
    cases h
    cases hfind : m.find? q.key with
    | some w =>
      -- Another caller was faster: its value is kept, and answered.
      rw [Memo.keep_of_some hfind, hfind]
      exact ⟨List.prefix_rfl, hfind, fun _ _ => .inl, id, rfl, rfl, Nat.le_succ _⟩
    | none =>
      have hself : (m.keep q.key v).find? q.key = some v := by
        rw [Memo.find?_keep _ _ _ _ hfind, if_pos rfl]
      have hentries := Memo.entries_keep_of_none (v := v) hfind
      rw [hself]
      refine ⟨?_, hself, fun key w hw => ?_, fun hnodup => ?_, ?_, ?_, ?_⟩
      · rw [hentries]
        exact List.prefix_append _ _
      · rw [Memo.find?_keep _ _ _ _ hfind] at hw
        split at hw
        · next hkey =>
          cases hw
          exact .inr ⟨hkey.symm, hc⟩
        · exact .inl hw
      · rw [hentries, List.map_append]
        refine List.nodup_append.2 ⟨hnodup, List.pairwise_singleton _ _,
          fun key hkey key' hkey' => ?_⟩
        rw [List.mem_singleton.1 hkey']
        rintro rfl
        exact Memo.notMem_keys hfind hkey
      · rw [Memo.hits_keep]; rfl
      · rw [Memo.misses_keep]; rfl
      · rw [hentries, List.length_append]
        exact Nat.le_refl _
  | found _ | failed _ | kept _ => cases h

end Caller

/-! ## Any interleaving -/

namespace Callers

/-- How many callers have come to such a stage. -/
def count (p : Callers) (stage : Stage → Bool) : Nat := p.callers.countP fun c => stage c.stage

variable {p p' : Callers}

/-- What is kept and counted is what the callers have computed and done. -/
structure Consistent (p : Callers) : Prop where
  origin : ∀ key v, p.memo.find? key = some v →
    ∃ c ∈ p.callers, c.question.key = key ∧ c.question.value = .ok v
  fits : ∀ c ∈ p.callers, c.Fits p.memo
  distinct : (p.memo.entries.map Prod.fst).Nodup
  hits : p.memo.hits = p.count Stage.isHit
  misses : p.memo.misses = p.count Stage.isMiss
  entries : p.memo.entries.length ≤ p.count Stage.isKept

/-- A memo that nobody has asked is consistent. -/
theorem consistent_none : none.Consistent where
  origin _ _ h := nomatch h
  fits _ h := nomatch h
  distinct := List.nodup_nil
  hits := rfl
  misses := rfl
  entries := Nat.le_refl _

/-- Callers are counted as those before one of them, those after it, and itself. -/
theorem count_split (m : Memo) (before after : List Caller) (c : Caller) (stage : Stage → Bool) :
    count ⟨m, before ++ c :: after⟩ stage =
      before.countP (fun c => stage c.stage) + after.countP (fun c => stage c.stage) +
        (stage c.stage).toNat := by
  have htoNat : (stage c.stage).toNat = if stage c.stage then 1 else 0 := Bool.cond_eq_ite ..
  rw [count, List.countP_append, List.countP_cons, htoNat, Nat.add_assoc]

/-- A step keeps callers consistent and only adds to the memo. -/
theorem Consistent.step (hp : p.Consistent) (h : Step p p') :
    p'.Consistent ∧ p.memo.entries <+: p'.memo.entries := by
  cases h with
  | @ask m cs q =>
    have hcount (stage : Stage → Bool) (hw : stage .waiting = false) :
        count ⟨m, cs ++ [⟨q, .waiting⟩]⟩ stage = count ⟨m, cs⟩ stage := by
      rw [count_split, hw]
      rfl
    refine ⟨⟨fun key v hv => ?_, fun c hc => ?_, hp.distinct, ?_, ?_, ?_⟩, List.prefix_rfl⟩
    · obtain ⟨c, hc, hfrom⟩ := hp.origin key v hv
      exact ⟨c, List.mem_append_left _ hc, hfrom⟩
    · rcases List.mem_append.1 hc with hc | hc
      · exact hp.fits c hc
      · rw [List.mem_singleton.1 hc]
        trivial
    · rw [hcount _ rfl]; exact hp.hits
    · rw [hcount _ rfl]; exact hp.misses
    · rw [hcount _ rfl]; exact hp.entries
  | @advance m m' before after q stage stage' hstep =>
    have hc : ⟨q, stage⟩ ∈ before ++ ⟨q, stage⟩ :: after :=
      List.mem_append_right _ List.mem_cons_self
    have hadv := Caller.advanced (hp.fits _ hc) hstep
    -- Every question of before is still there.
    have hmem {key : MemoKey} {v : Aggregation.Result} (d : Caller)
        (hd : d ∈ before ++ ⟨q, stage⟩ :: after)
        (hfrom : d.question.key = key ∧ d.question.value = .ok v) :
        ∃ d ∈ before ++ ⟨q, stage'⟩ :: after,
          d.question.key = key ∧ d.question.value = .ok v := by
      rcases List.mem_append.1 hd with hd | hd
      · exact ⟨d, List.mem_append_left _ hd, hfrom⟩
      · rcases List.mem_cons.1 hd with rfl | hd
        · exact ⟨_, List.mem_append_right _ List.mem_cons_self, hfrom⟩
        · exact ⟨d, List.mem_append_right _ (List.mem_cons_of_mem _ hd), hfrom⟩
    refine ⟨⟨fun key v hv => ?_, fun d hd => ?_, hadv.distinct hp.distinct, ?_, ?_, ?_⟩, hadv.grows⟩
    · rcases hadv.fresh key v hv with hv | hfrom
      · obtain ⟨d, hd, hfrom⟩ := hp.origin key v hv
        exact hmem d hd hfrom
      · exact hmem _ hc hfrom
    · rcases List.mem_append.1 hd with hd | hd
      · exact (hp.fits d (List.mem_append_left _ hd)).mono hadv.grows
      · rcases List.mem_cons.1 hd with rfl | hd
        · exact hadv.fits
        · exact (hp.fits d (List.mem_append_right _ (List.mem_cons_of_mem _ hd))).mono hadv.grows
    · have hhits := hadv.hits
      have hbefore := hp.hits
      rw [count_split] at hbefore ⊢
      dsimp only at hhits hbefore ⊢
      omega
    · have hmisses := hadv.misses
      have hbefore := hp.misses
      rw [count_split] at hbefore ⊢
      dsimp only at hmisses hbefore ⊢
      omega
    · have hentries := hadv.entries
      have hbefore := hp.entries
      rw [count_split] at hbefore ⊢
      dsimp only at hentries hbefore ⊢
      omega

/-- Whatever has happened, callers are consistent. -/
theorem Consistent.reached (h : Relation.ReflTransGen Step none p) : p.Consistent := by
  induction h with
  | refl => exact consistent_none
  | tail _ hstep ih => exact (ih.step hstep).1

/-- Whatever happens, what is kept stays. -/
theorem Consistent.entries_prefix (hp : p.Consistent) (h : Relation.ReflTransGen Step p p') :
    p.memo.entries <+: p'.memo.entries := by
  suffices h : p'.Consistent ∧ p.memo.entries <+: p'.memo.entries from h.2
  induction h with
  | refl => exact ⟨hp, List.prefix_rfl⟩
  | tail _ hstep ih =>
    obtain ⟨hq, hle⟩ := ih.1.step hstep
    exact ⟨hq, ih.2.trans hle⟩

/-- Who has looked a key up has found a value or none. -/
theorem count_isHit_add_count_isMiss (p : Callers) :
    p.count Stage.isHit + p.count Stage.isMiss = p.count Stage.isLookedUp := by
  unfold count
  induction p.callers with
  | nil => rfl
  | cons c cs ih =>
    have hone : (if c.stage.isHit = true then 1 else 0) + (if c.stage.isMiss = true then 1 else 0) =
        if c.stage.isLookedUp = true then 1 else 0 := by
      cases c.stage <;> rfl
    rw [List.countP_cons, List.countP_cons, List.countP_cons, ← ih]
    omega

/-- Only callers that found no value offer one. -/
theorem count_isKept_le_count_isMiss (p : Callers) : p.count Stage.isKept ≤ p.count Stage.isMiss :=
  List.countP_mono_left fun c _ hkept => by
    cases hstage : c.stage <;> rw [hstage] at hkept <;> first | rfl | cases hkept

/-- The value that a caller has answered is kept. -/
theorem Consistent.find?_of_answer (hp : p.Consistent) {c : Caller} (hc : c ∈ p.callers)
    {v : Aggregation.Result} (h : c.stage.answer? = some (.ok v)) :
    p.memo.find? c.question.key = some v := by
  obtain ⟨q, stage⟩ := c
  cases stage with
  | found _ | kept _ =>
    cases h
    exact hp.fits _ hc
  | waiting | missed | computed _ | failed _ => cases h

/-- The fault that a caller has answered is the one of its computation. -/
theorem Consistent.value_of_answer (hp : p.Consistent) {c : Caller} (hc : c ∈ p.callers)
    {fault : Fault} (h : c.stage.answer? = some (.error fault)) :
    c.question.value = .error fault := by
  obtain ⟨q, stage⟩ := c
  cases stage with
  | failed _ =>
    cases h
    exact hp.fits _ hc
  | waiting | missed | computed _ | found _ | kept _ => cases h

/-- No step of a caller whose computation fails changes what is kept. -/
theorem Consistent.entries_of_error (hp : p.Consistent) {c : Caller} (hc : c ∈ p.callers)
    {fault : Fault} (h : c.question.value = .error fault) {stage : Stage} {m : Memo}
    (hstep : c.advance p.memo = some (stage, m)) : m.entries = p.memo.entries := by
  obtain ⟨q, before⟩ := c
  unfold Caller.advance at hstep
  cases before with
  | waiting | missed =>
    dsimp only at hstep
    split at hstep <;> cases hstep <;> rfl
  | computed _ => cases h.symm.trans (hp.fits _ hc)
  | found _ | failed _ | kept _ => cases hstep

/-- Whatever the callers of a memo ask, and however their steps are interleaved: an entry never
changes; the values that callers have answered under one key are the one that is kept there, which
one of them has computed; a caller answers with a fault only if it is the one of its computation,
and a caller whose computation fails answers so after a miss and never changes what is kept; every
question that was looked up is counted once, and there are no more entries, each under its own key,
than misses. -/
theorem write_once (h : Relation.ReflTransGen Step none p) :
    (∀ p', Relation.ReflTransGen Step p p' → p.memo.entries <+: p'.memo.entries ∧
      ∀ key v, p.memo.find? key = some v → p'.memo.find? key = some v) ∧
    (∀ c ∈ p.callers, ∀ v, c.stage.answer? = some (.ok v) →
      p.memo.find? c.question.key = some v ∧
      (∃ d ∈ p.callers, d.question.key = c.question.key ∧ d.question.value = .ok v) ∧
      ∀ d ∈ p.callers, d.question.key = c.question.key →
        ∀ w, d.stage.answer? = some (.ok w) → w = v) ∧
    (∀ c ∈ p.callers, ∀ fault,
      (c.stage.answer? = some (.error fault) → c.question.value = .error fault) ∧
      (c.question.value = .error fault →
        (c.stage = .missed → c.advance p.memo = some (.failed fault, p.memo)) ∧
        ∀ stage m, c.advance p.memo = some (stage, m) → m.entries = p.memo.entries)) ∧
    p.memo.hits + p.memo.misses = p.count Stage.isLookedUp ∧
    p.memo.entries.length ≤ p.memo.misses ∧ (p.memo.entries.map Prod.fst).Nodup := by
  have hp := Consistent.reached h
  refine ⟨fun p' h' => ⟨hp.entries_prefix h', fun key v => ?_⟩, fun c hc v hv => ?_,
    fun c hc fault => ⟨hp.value_of_answer hc, fun hvalue =>
      ⟨fun hstage => ?_, fun _ _ => hp.entries_of_error hc hvalue⟩⟩, ?_, ?_, hp.distinct⟩
  · exact Memo.find?_of_prefix (hp.entries_prefix h')
  · have hfind := hp.find?_of_answer hc hv
    refine ⟨hfind, hp.origin _ v hfind, fun d hd hkey w hw => ?_⟩
    have hfind' := hp.find?_of_answer hd hw
    rw [hkey] at hfind'
    exact Option.some.inj (hfind'.symm.trans hfind)
  · rw [Caller.advance, hstage]
    dsimp only
    rw [hvalue]
  · rw [hp.hits, hp.misses]
    exact p.count_isHit_add_count_isMiss
  · rw [hp.misses]
    exact Nat.le_trans hp.entries p.count_isKept_le_count_isMiss

/-- The least text of a column in a table of one row. -/
def leastText (value : String) : Question :=
  ⟨"t", [Row.ofList [("v", .text value)]], { function := ⟨false, .min⟩, column := "v" }⟩

/-- Two callers that have found nothing under the key that their questions share, though they ask
about different rows. The second one was faster. -/
def raced : Callers where
  memo := ⟨[((leastText "q").key, .scalar (.text "q"))], 0, 2⟩
  callers :=
    [⟨leastText "p", .kept (.scalar (.text "q"))⟩, ⟨leastText "q", .kept (.scalar (.text "q"))⟩]

/-- The slower caller answers with the value of the other one, and so it stays. -/
theorem write_once_raced :
    Relation.ReflTransGen Step none raced ∧
    (leastText "p").value = .ok (.scalar (.text "p")) ∧
    (∃ d ∈ raced.callers, d.question.key = (leastText "p").key ∧
      d.question.value = .ok (.scalar (.text "q"))) ∧
    (∀ p', Relation.ReflTransGen Step raced p' →
      p'.memo.find? (leastText "p").key = some (.scalar (.text "q"))) ∧
    raced.memo.hits + raced.memo.misses = raced.count Stage.isLookedUp := by
  have hsteps : Relation.ReflTransGen Step none raced := by
    refine .head (.ask (leastText "p")) (.head (.ask (leastText "q")) ?_)
    refine .head (.advance [] [_] .missed rfl) ?_
    refine .head (.advance [_] [] .missed rfl) ?_
    refine .head (.advance [] [_] (.computed (.scalar (.text "p"))) rfl) ?_
    refine .head (.advance [_] [] (.computed (.scalar (.text "q"))) rfl) ?_
    refine .head (.advance [_] [] _ rfl) (.single (.advance [] [_] _ rfl))
  obtain ⟨hlater, hanswers, -, hcount, -⟩ := write_once hsteps
  have hanswer := hanswers ⟨leastText "p", .kept (.scalar (.text "q"))⟩ List.mem_cons_self _ rfl
  exact ⟨hsteps, rfl, hanswer.2.1, fun p' h' => (hlater p' h').2 _ _ hanswer.1, hcount⟩

/-- A caller that no other one disturbs does what `Memo.fetch` does. -/
theorem reaches_fetch (q : Question) (m : Memo) (before after : List Caller) :
    ∃ stage, stage.answer? = some (Memo.fetch q.table q.rows q.aggregation m).1 ∧
      Relation.ReflTransGen Step ⟨m, before ++ ⟨q, .waiting⟩ :: after⟩
        ⟨(Memo.fetch q.table q.rows q.aggregation m).2, before ++ ⟨q, stage⟩ :: after⟩ := by
  unfold Memo.fetch
  cases hfind : m.find? (Memo.keyOf q.table q.aggregation) with
  | some v =>
    refine ⟨.found v, rfl, .single (.advance before after _ ?_)⟩
    simp only [Caller.advance, Question.key, hfind]
  | none =>
    have hmiss : Step ⟨m, before ++ ⟨q, .waiting⟩ :: after⟩
        ⟨{ m with misses := m.misses + 1 }, before ++ ⟨q, .missed⟩ :: after⟩ :=
      .advance before after _ (by simp only [Caller.advance, Question.key, hfind])
    cases hvalue : q.aggregation.compute q.rows with
    | error fault =>
      refine ⟨.failed fault, rfl, .head hmiss (.single (.advance before after _ ?_))⟩
      simp only [Caller.advance, Question.value, hvalue]
    | ok v =>
      have hcomputed : Step ⟨{ m with misses := m.misses + 1 }, before ++ ⟨q, .missed⟩ :: after⟩
          ⟨{ m with misses := m.misses + 1 }, before ++ ⟨q, .computed v⟩ :: after⟩ :=
        .advance before after _ (by simp only [Caller.advance, Question.value, hvalue])
      refine ⟨.kept v, rfl, .head hmiss (.head hcomputed (.single (.advance before after _ ?_)))⟩
      have hmiss : ({ m with misses := m.misses + 1 } : Memo).find?
          (Memo.keyOf q.table q.aggregation) = .none := hfind
      simp only [Caller.advance, Question.key, Memo.find?_keep _ _ _ _ hmiss, if_true,
        Option.getD_some]

end Callers

end RowAudit
