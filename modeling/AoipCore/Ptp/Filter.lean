import AoipCore.Ptp.Clock
import AoipCore.Ptp.Measurement
import Mathlib.Data.List.Induction

/-!
# The minimum-delay filter

A measurement is stored if the stored delay is zero or the new one, compared as
an unsigned word, is no larger. Zero is both the mark of an unset delay and a
legal delay. `history_measures` says that every run of a PTP loop stores what
folding the update over its measurements stores; the rest is about that fold.
-/

namespace AoipCore.Ptp

open ControlLoop MachineInt AoipCore.Host AoipCore.Timer

set_option autoImplicit false

def delayOf (sync : PtpcSyncCtx) : Int := (ptpMeanPathDelay sync).toInt

/-- The measurements made in order, each by the `sync` it finds. -/
def measureAll (ctx : PtpcCtx) (measured : List PtpcSyncCtx) : PtpcCtx :=
  measured.foldl updateMeanPathDelay ctx

/-- As long as the stored delay is not negative, a measurement is adopted over
zero or if it lies between zero and the stored delay. -/
theorem adopts_iff (ctx : PtpcCtx) (sync : PtpcSyncCtx) (held : 0 ≤ ctx.meanPathDelay.toInt) :
    Adopts ctx sync ↔
      ctx.meanPathDelay.toInt = 0 ∨
        (0 ≤ delayOf sync ∧ delayOf sync ≤ ctx.meanPathDelay.toInt) := by
  have zero : ctx.meanPathDelay = 0 ↔ ctx.meanPathDelay.toInt = 0 := by
    rw [← Int64.toInt_inj]
    rfl
  have new := to_uint64_value (ptpMeanPathDelay sync)
  have stored := to_uint64_value ctx.meanPathDelay
  have high := ctx.meanPathDelay.toInt_lt
  have low := (ptpMeanPathDelay sync).le_toInt
  rw [Adopts, zero, UInt64.le_iff_toNat_le]
  unfold delayOf
  rw [if_pos held] at stored
  split_ifs at new <;> omega

/-! ## What the filter is for -/

/-- The latest of the measurements that have the least non-negative delay. -/
structure LatestLeast (measured : List PtpcSyncCtx) (best : PtpcSyncCtx) : Prop where
  latest : ∃ earlier later, measured = earlier ++ best :: later ∧
    ∀ sync ∈ later, delayOf sync ≠ delayOf best
  nonnegative : 0 ≤ delayOf best
  least : ∀ sync ∈ measured, 0 ≤ delayOf sync → delayOf best ≤ delayOf sync

def Stores (ctx : PtpcCtx) (sync : PtpcSyncCtx) : Prop :=
  ctx.meanPathDelay = ptpMeanPathDelay sync ∧ ctx.ptpOffset = ptpOffset ctx sync

def HasAdopted (ctx : PtpcCtx) (measured : List PtpcSyncCtx) : Prop :=
  ∃ earlier sync later, measured = earlier ++ sync :: later ∧
    Adopts (measureAll ctx earlier) sync

structure MinimumFilter (ctx : PtpcCtx) (measured : List PtpcSyncCtx) : Prop where
  least : (∃ sync ∈ measured, 0 ≤ delayOf sync) →
    ∃ best, LatestLeast measured best ∧ Stores (measureAll ctx measured) best
  nonnegative : ∀ earlier sync later, measured = earlier ++ sync :: later → delayOf sync < 0 →
    ¬Adopts (measureAll ctx earlier) sync
  decreasing : ∀ earlier sync later, measured = earlier ++ sync :: later →
    HasAdopted ctx earlier → Adopts (measureAll ctx earlier) sync →
    delayOf sync ≤ (measureAll ctx earlier).meanPathDelay.toInt

/-- The first measurement is not negative, and nothing but zero follows a
measurement of zero. -/
structure ZeroStays (measured : List PtpcSyncCtx) : Prop where
  first : ∀ sync ∈ measured.head?, 0 ≤ delayOf sync
  zeros : measured.Pairwise fun sync later => delayOf sync = 0 → delayOf later = 0

theorem zero_stays_append (measured : List PtpcSyncCtx) (sync : PtpcSyncCtx) :
    ZeroStays (measured ++ [sync]) ↔
      ZeroStays measured ∧ (measured = [] → 0 ≤ delayOf sync) ∧
        ∀ earlier ∈ measured, delayOf earlier = 0 → delayOf sync = 0 := by
  constructor
  · rintro ⟨first, zeros⟩
    rw [List.pairwise_append] at zeros
    refine ⟨⟨?_, zeros.1⟩, ?_, fun earlier member => zeros.2.2 earlier member sync (by simp)⟩
    · cases measured with
      | nil => simp
      | cons head tail => exact first
    · rintro rfl
      exact first sync (by simp)
  · rintro ⟨⟨first, zeros⟩, alone, follows⟩
    constructor
    · cases measured with
      | nil =>
          intro head member
          obtain rfl : sync = head := by simpa using member
          exact alone rfl
      | cons head tail => exact first
    · rw [List.pairwise_append]
      refine ⟨zeros, List.pairwise_singleton _ _, ?_⟩
      intro earlier member later last
      obtain rfl := List.mem_singleton.mp last
      exact follows earlier member

/-! ## One measurement -/

theorem measure_all_append (ctx : PtpcCtx) (measured : List PtpcSyncCtx) (sync : PtpcSyncCtx) :
    measureAll ctx (measured ++ [sync]) = updateMeanPathDelay (measureAll ctx measured) sync := by
  simp [measureAll]

theorem latest_least_new {measured : List PtpcSyncCtx} {sync : PtpcSyncCtx}
    (nonnegative : 0 ≤ delayOf sync)
    (least : ∀ earlier ∈ measured, 0 ≤ delayOf earlier → delayOf sync ≤ delayOf earlier) :
    LatestLeast (measured ++ [sync]) sync := by
  refine ⟨⟨measured, [], rfl, by simp⟩, nonnegative, ?_⟩
  intro other member sign
  rcases List.mem_append.mp member with earlier | last
  · exact least other earlier sign
  · rw [List.mem_singleton.mp last]

theorem latest_least_kept {measured : List PtpcSyncCtx} {best sync : PtpcSyncCtx}
    (kept : LatestLeast measured best)
    (larger : delayOf sync < 0 ∨ delayOf best < delayOf sync) :
    LatestLeast (measured ++ [sync]) best := by
  obtain ⟨⟨earlier, later, split, latest⟩, nonnegative, least⟩ := kept
  refine ⟨⟨earlier, later ++ [sync], by simp [split], ?_⟩, nonnegative, ?_⟩
  · intro other member
    rcases List.mem_append.mp member with inside | last
    · exact latest other inside
    · rw [List.mem_singleton.mp last]
      omega
  · intro other member sign
    rcases List.mem_append.mp member with inside | last
    · exact least other inside sign
    · rw [List.mem_singleton.mp last] at sign ⊢
      omega

/-- A measurement keeps the filter's promise unless the stored delay is zero
and the new one is not. -/
theorem stores_step {ctx : PtpcCtx} {measured : List PtpcSyncCtx} {best sync : PtpcSyncCtx}
    (least : LatestLeast measured best) (stored : Stores ctx best)
    (zero : delayOf best = 0 → delayOf sync = 0) :
    ∃ next, LatestLeast (measured ++ [sync]) next ∧ Stores (updateMeanPathDelay ctx sync) next := by
  have delay : ctx.meanPathDelay.toInt = delayOf best := by rw [stored.1, delayOf]
  have nonnegative := least.nonnegative
  have test := adopts_iff ctx sync (by rwa [delay])
  rw [delay] at test
  by_cases adopts : Adopts ctx sync
  · refine ⟨sync, latest_least_new ?_ ?_, update_adopted adopts⟩
    · rcases test.mp adopts with unset | inside
      · rw [zero unset]
      · exact inside.1
    · intro earlier member sign
      have bound := least.least earlier member sign
      rcases test.mp adopts with unset | inside
      · rwa [zero unset]
      · exact inside.2.trans bound
  · rw [update_declined adopts]
    refine ⟨best, latest_least_kept least ?_, stored⟩
    rw [test] at adopts
    omega

/-! ## Whole sequences -/

variable {ctx : PtpcCtx}

theorem unset_adopts (unset : ctx.meanPathDelay = 0) (sync : PtpcSyncCtx) : Adopts ctx sync :=
  .inl unset

theorem stores_least (unset : ctx.meanPathDelay = 0) (measured : List PtpcSyncCtx)
    (stays : ZeroStays measured) (some : measured ≠ []) :
    ∃ best, LatestLeast measured best ∧ Stores (measureAll ctx measured) best := by
  induction measured using List.reverseRecOn with
  | nil => exact absurd rfl some
  | append_singleton measured sync ih =>
      obtain ⟨prior, alone, follows⟩ := (zero_stays_append measured sync).mp stays
      rw [measure_all_append]
      by_cases empty : measured = []
      · subst empty
        exact ⟨sync, latest_least_new (alone rfl) (by simp),
          update_adopted (unset_adopts unset sync)⟩
      · obtain ⟨best, least, stored⟩ := ih prior empty
        apply stores_step least stored
        obtain ⟨earlier, later, split, -⟩ := least.latest
        exact follows best (by simp [split])

theorem has_adopted_first (unset : ctx.meanPathDelay = 0) {measured : List PtpcSyncCtx}
    (some : measured ≠ []) : HasAdopted ctx measured := by
  obtain ⟨first, rest, rfl⟩ := List.exists_cons_of_ne_nil some
  exact ⟨[], first, rest, rfl, unset_adopts unset first⟩

/-- The two step conditions alone already force the zeros to stay. -/
theorem zero_stays_of_steps (unset : ctx.meanPathDelay = 0) (measured : List PtpcSyncCtx)
    (nonnegative : ∀ earlier sync later, measured = earlier ++ sync :: later →
      delayOf sync < 0 → ¬Adopts (measureAll ctx earlier) sync)
    (decreasing : ∀ earlier sync later, measured = earlier ++ sync :: later →
      HasAdopted ctx earlier → Adopts (measureAll ctx earlier) sync →
      delayOf sync ≤ (measureAll ctx earlier).meanPathDelay.toInt) :
    ZeroStays measured := by
  induction measured using List.reverseRecOn with
  | nil => exact ⟨by simp, List.Pairwise.nil⟩
  | append_singleton measured sync ih =>
      have prior : ZeroStays measured := by
        apply ih
        · intro earlier other later split
          exact nonnegative earlier other (later ++ [sync]) (by simp [split])
        · intro earlier other later split
          exact decreasing earlier other (later ++ [sync]) (by simp [split])
      have last := nonnegative measured sync [] rfl
      rw [zero_stays_append]
      refine ⟨prior, ?_, ?_⟩
      · rintro rfl
        by_contra negative
        exact last (by omega) (unset_adopts unset sync)
      · intro earlier member zero
        have some : measured ≠ [] := List.ne_nil_of_mem member
        obtain ⟨best, least, stored⟩ := stores_least unset measured prior some
        have bound := least.least earlier member (by omega)
        have held : (measureAll ctx measured).meanPathDelay.toInt = 0 := by
          have sign := least.nonnegative
          rw [stored.1]
          unfold delayOf at bound sign zero
          omega
        have adopts : Adopts (measureAll ctx measured) sync :=
          (adopts_iff _ sync (by omega)).mpr (.inl held)
        have upper := decreasing measured sync [] rfl (has_adopted_first unset some) adopts
        by_contra different
        exact last (by omega) adopts

theorem steps_of_zero_stays (unset : ctx.meanPathDelay = 0) {measured : List PtpcSyncCtx}
    (stays : ZeroStays measured) (earlier : List PtpcSyncCtx) (sync : PtpcSyncCtx)
    (later : List PtpcSyncCtx) (split : measured = earlier ++ sync :: later)
    (adopts : Adopts (measureAll ctx earlier) sync) :
    0 ≤ delayOf sync ∧
      (HasAdopted ctx earlier → delayOf sync ≤ (measureAll ctx earlier).meanPathDelay.toInt) := by
  have front : ZeroStays (earlier ++ [sync]) := by
    constructor
    · cases earlier with
      | nil => simpa [split] using stays.first
      | cons head tail => simpa [split] using stays.first
    · apply List.Pairwise.sublist _ stays.zeros
      rw [split]
      simp
  obtain ⟨prior, alone, follows⟩ := (zero_stays_append earlier sync).mp front
  by_cases empty : earlier = []
  · refine ⟨alone empty, ?_⟩
    rintro ⟨front, other, rest, cut, -⟩
    simp [empty] at cut
  · obtain ⟨best, least, stored⟩ := stores_least unset earlier prior empty
    have delay : (measureAll ctx earlier).meanPathDelay.toInt = delayOf best := by
      rw [stored.1, delayOf]
    have nonnegative := least.nonnegative
    rw [adopts_iff _ sync (by omega), delay] at adopts
    obtain ⟨before, after, place, -⟩ := least.latest
    have zero := follows best (by simp [place])
    rw [delay]
    omega

/-! ## Runs of a PTP loop -/

def measuredIn (pass : PtpPassed) : Option PtpcSyncCtx :=
  if measures pass then some (delayRespSync (parsed pass.1 pass.2)) else none

theorem update_results (ctx other : PtpcCtx) (sync : PtpcSyncCtx)
    (delay : ctx.meanPathDelay = other.meanPathDelay) (offset : ctx.ptpOffset = other.ptpOffset) :
    (updateMeanPathDelay ctx sync).meanPathDelay = (updateMeanPathDelay other sync).meanPathDelay ∧
      (updateMeanPathDelay ctx sync).ptpOffset = (updateMeanPathDelay other sync).ptpOffset := by
  by_cases adopts : Adopts ctx sync
  · have also : Adopts other sync := by
      unfold Adopts at adopts ⊢
      rwa [← delay]
    have first := update_adopted adopts
    have second := update_adopted also
    refine ⟨first.1.trans second.1.symm, ?_⟩
    rw [first.2, second.2, ptpOffset, ptpOffset, first.1, second.1]
  · have neither : ¬Adopts other sync := by
      unfold Adopts at adopts ⊢
      rwa [← delay]
    rw [update_declined adopts, update_declined neither]
    exact ⟨delay, offset⟩

theorem history_measures {ptpc : PtpcCtx} {now : NsTime} {past : List PtpPassed} {s : PtpState}
    (history : History ptpPass (ptpLoopStart ptpc now) past s) :
    s.ptpc.meanPathDelay = (measureAll ptpc (past.filterMap measuredIn)).meanPathDelay ∧
      s.ptpc.ptpOffset = (measureAll ptpc (past.filterMap measuredIn)).ptpOffset := by
  induction history with
  | start => exact ⟨rfl, rfl⟩
  | @pass past s next prior poll step ih =>
      obtain ⟨event, -, rfl⟩ := pass_falls_through s next poll step
      have kept : (parsed s poll).ptpc.meanPathDelay = s.ptpc.meanPathDelay ∧
          (parsed s poll).ptpc.ptpOffset = s.ptpc.ptpOffset := ⟨rfl, rfl⟩
      rw [List.filterMap_append, general_call_eq]
      by_cases kind : generalKind s poll = .delayResp
      · have measured : measuredIn (s, poll) = some (delayRespSync (parsed s poll)) := by
          simp [measuredIn, measures, acceptsDelayResp, event, kind]
        have here : [(s, poll)].filterMap measuredIn = [delayRespSync (parsed s poll)] := by
          simp [measured]
        rw [here, measure_all_append, kind]
        dsimp only
        rw [accept_delay_resp_eq]
        apply update_results
        · exact kept.1.trans ih.1
        · exact kept.2.trans ih.2
      · have unmeasured : measuredIn (s, poll) = none := by
          simp [measuredIn, measures, acceptsDelayResp, kind]
        have here : [(s, poll)].filterMap measuredIn = [] := by
          simp [unmeasured]
        rw [here, List.append_nil]
        cases branch : generalKind s poll with
        | ignored => exact ih
        | failed => exact ih
        | newServer => exact ih
        | reset => exact ih
        | followUp =>
            dsimp only
            rw [accept_follow_up_eq]
            exact ih
        | delayResp => exact absurd branch kind

/-- What a loop that starts with nothing held stores is the least of its
non-negative delays exactly if zeros stay. -/
theorem minimum_delay_filter_iff (ptpc : PtpcCtx) (unset : ptpc.meanPathDelay = 0) :
    (∀ now past s, History ptpPass (ptpLoopStart ptpc now) past s →
      s.ptpc.meanPathDelay = (measureAll ptpc (past.filterMap measuredIn)).meanPathDelay ∧
        s.ptpc.ptpOffset = (measureAll ptpc (past.filterMap measuredIn)).ptpOffset) ∧
      ∀ measured, MinimumFilter ptpc measured ↔ ZeroStays measured := by
  refine ⟨fun now past s history => history_measures history, ?_⟩
  intro measured
  constructor
  · rintro ⟨-, nonnegative, decreasing⟩
    exact zero_stays_of_steps unset measured nonnegative decreasing
  · intro stays
    constructor
    · rintro ⟨sync, member, -⟩
      exact stores_least unset measured stays (List.ne_nil_of_mem member)
    · intro earlier sync later split negative adopts
      have sign := (steps_of_zero_stays unset stays earlier sync later split adopts).1
      omega
    · intro earlier sync later split adopted adopts
      exact (steps_of_zero_stays unset stays earlier sync later split adopts).2 adopted

/-- An exchange with the given value of `t4`, from which the delay follows. -/
def sampleMeasurement (t4 : NsTime) : PtpcSyncCtx :=
  { zeroSync with state := .sFollowUp, t1 := 1000, t2 := 1000, t3 := 1000, t4 := t4 }

theorem sample_minimum_delay_filter :
    MinimumFilter sampleCtx [sampleMeasurement 1060, sampleMeasurement 1040] :=
  ((minimum_delay_filter_iff sampleCtx rfl).2 _).mpr ⟨by decide, by decide⟩

/-- A delay of zero is forgotten for a delay of 30, and a first delay of -30 is
adopted. -/
theorem sample_zero_is_replaced :
    ¬MinimumFilter sampleCtx [sampleMeasurement 1000, sampleMeasurement 1060] ∧
      ¬MinimumFilter sampleCtx [sampleMeasurement 940] := by
  constructor
  · intro filter
    have smaller := filter.decreasing [sampleMeasurement 1000] (sampleMeasurement 1060) [] rfl
      ⟨[], sampleMeasurement 1000, [], rfl, by decide⟩ (by decide)
    exact absurd smaller (by decide)
  · intro filter
    exact filter.nonnegative [] (sampleMeasurement 940) [] rfl (by decide) (by decide)

end AoipCore.Ptp
