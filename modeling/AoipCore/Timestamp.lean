import AoipCore.Record
import Mathlib.Data.List.Induction

/-!
# The timestamps of the attempts

Every attempt to send advances `tstamp` by 48 modulo 2^16, and a `tstamp` that has become
zero is set from the clock. So a multiple of 16 gets to zero after a number of attempts
that depends on it alone, and any other value never does. The attempts that read the
clock are found by counting from one such reading to the next.
-/

namespace AoipCore.Timestamp

open AoipCore.Record

set_option autoImplicit false

/-- The attempts it takes a multiple of 16 to become zero; 2731 is the inverse of 3
modulo 4096. -/
def untilZero (value : Nat) : Nat :=
  if value = 0 then 0 else 4096 - value / 16 * 2731 % 4096

/-- The attempts behind the first that take their timestamp from the clock, counted from
the first, which is stamped `first`. -/
inductive ReadsClock (first : Nat) (clock : Nat → Nat) : Nat → Prop where
  | first (even : 16 ∣ first) : ReadsClock first clock (untilZero first + 1)
  | again {attempt : Nat} (earlier : ReadsClock first clock attempt)
      (even : 16 ∣ clock attempt) :
      ReadsClock first clock (attempt + untilZero (clock attempt) + 1)

/-- The attempt behind `refused` others is stamped like the first: there are no others, or
the clock is not read and the counter has gone round, or it has come from the last value
read to the first one. -/
def CounterReturns (first : Nat) (clock : Nat → Nat) (refused : Nat) : Prop :=
  refused = 0 ∨
    (¬16 ∣ first ∧ first < 65536 ∧ 4096 ∣ refused) ∨
    ∃ last ≤ refused, ReadsClock first clock last ∧
      (∀ attempt ≤ refused, ReadsClock first clock attempt → attempt ≤ last) ∧
      (last = refused ∧ clock last = first ∨
        last < refused ∧ (clock last + 48 * (refused - last)) % 65536 = first)

/-- What the first attempt is stamped with. -/
def firstStamp (tstamp : Nat) (clock : Nat → Nat) : Nat :=
  if tstamp = 0 then clock 0 else (tstamp + 48) % 65536

/-! ## The counter, attempt by attempt -/

def counter (first : Nat) (clock : Nat → Nat) : Nat → Nat
  | 0 => first
  | attempt + 1 =>
      if counter first clock attempt = 0 then clock (attempt + 1)
      else (counter first clock attempt + 48) % 65536

theorem next_tstamp_value {tstamp : UInt32} (counting : tstamp ≠ 0) (fresh : UInt32) :
    (nextTstamp tstamp fresh).toNat = (tstamp.toNat + 48) % 65536 := by
  have mask : (0xffff : UInt32).toNat = 2 ^ 16 - 1 := rfl
  have step : (48 : UInt32).toNat = 48 := rfl
  rw [nextTstamp, if_pos counting, UInt32.toNat_and, mask, Nat.and_two_pow_sub_one_eq_mod,
    UInt32.toNat_add, step]
  omega

theorem next_tstamp_nat (tstamp fresh : UInt32) :
    (nextTstamp tstamp fresh).toNat =
      if tstamp.toNat = 0 then fresh.toNat else (tstamp.toNat + 48) % 65536 := by
  by_cases zero : tstamp = 0
  · rw [zero]
    rfl
  · have counting : tstamp.toNat ≠ 0 := fun same => zero (UInt32.toNat_inj.mp same)
    rw [if_neg counting, next_tstamp_value zero]

theorem fold_is_counter (first : UInt32) (further : List UInt32) (clock : Nat → Nat)
    (values : ∀ attempt fresh, further[attempt]? = some fresh →
      clock (attempt + 1) = fresh.toNat) :
    (further.foldl nextTstamp first).toNat = counter first.toNat clock further.length := by
  induction further using List.reverseRecOn with
  | nil => rfl
  | append_singleton earlier fresh ih =>
      have before := ih fun attempt each found => by
        have inside := (List.getElem?_eq_some_iff.mp found).1
        exact values attempt each (by rw [List.getElem?_append_left inside, found])
      have value := values earlier.length fresh List.getElem?_concat_length
      rw [List.foldl_append, List.foldl_cons, List.foldl_nil, next_tstamp_nat, before,
        List.length_append, List.length_singleton, counter, value]

section

variable {first : Nat} {clock : Nat → Nat}

theorem counter_advanced {start : Nat} (steps : Nat)
    (running : ∀ attempt, start ≤ attempt → attempt < start + steps →
      counter first clock attempt ≠ 0) :
    counter first clock (start + steps) =
      if steps = 0 then counter first clock start
      else (counter first clock start + 48 * steps) % 65536 := by
  induction steps with
  | zero => rfl
  | succ steps ih =>
      have before := ih fun attempt above below => running attempt above (by omega)
      have nonzero := running (start + steps) (Nat.le_add_right _ _) (by omega)
      rw [← Nat.add_assoc, counter, if_neg nonzero, before, if_neg (Nat.succ_ne_zero steps)]
      split_ifs with none
      · rw [none]
      · omega

theorem counter_uneven {start : Nat} (uneven : ¬16 ∣ counter first clock start) (steps : Nat) :
    ¬16 ∣ counter first clock (start + steps) := by
  induction steps with
  | zero => exact uneven
  | succ steps ih =>
      have nonzero : counter first clock (start + steps) ≠ 0 := by
        intro zero
        rw [zero] at ih
        exact ih (Nat.dvd_zero 16)
      rw [← Nat.add_assoc, counter, if_neg nonzero]
      omega

theorem uneven_never_zero (uneven : ¬16 ∣ first) (attempt : Nat) :
    counter first clock attempt ≠ 0 := by
  have start : ¬16 ∣ counter first clock 0 := uneven
  have still := counter_uneven start attempt
  intro zero
  rw [Nat.zero_add, zero] at still
  exact still (Nat.dvd_zero 16)

theorem uneven_counter (uneven : ¬16 ∣ first) (attempt : Nat) :
    counter first clock attempt =
      if attempt = 0 then first else (first + 48 * attempt) % 65536 := by
  have advanced : counter first clock (0 + attempt) = _ :=
    counter_advanced attempt fun between _ _ => uneven_never_zero uneven between
  rwa [Nat.zero_add] at advanced

/-- Of the multiples of 48 that take a multiple of 16 to zero, this is the first. -/
theorem until_zero_first {value : Nat} (even : 16 ∣ value) (nonzero : value ≠ 0) :
    0 < untilZero value ∧ (value + 48 * untilZero value) % 65536 = 0 ∧
      ∀ steps, 0 < steps → (value + 48 * steps) % 65536 = 0 → untilZero value ≤ steps := by
  obtain ⟨factor, rfl⟩ := even
  have quotient : 16 * factor / 16 = factor := Nat.mul_div_cancel_left factor (by decide)
  rw [untilZero, if_neg nonzero, quotient]
  refine ⟨by omega, by omega, ?_⟩
  intro steps some back
  omega

theorem counter_reaches_zero {start : Nat} (even : 16 ∣ counter first clock start) :
    counter first clock (start + untilZero (counter first clock start)) = 0 ∧
      ∀ attempt, start ≤ attempt → attempt < start + untilZero (counter first clock start) →
        counter first clock attempt ≠ 0 := by
  by_cases zero : counter first clock start = 0
  · have none : untilZero (counter first clock start) = 0 := if_pos zero
    rw [none]
    exact ⟨zero, fun attempt above below => by omega⟩
  obtain ⟨positive, back, least⟩ := until_zero_first even zero
  have running : ∀ steps < untilZero (counter first clock start),
      counter first clock (start + steps) ≠ 0 := by
    intro steps early
    induction steps using Nat.strong_induction_on with
    | _ steps ih =>
        have advanced := counter_advanced steps fun attempt above below => by
          obtain ⟨gap, rfl⟩ := Nat.le.dest above
          exact ih gap (by omega) (by omega)
        intro reached
        rw [advanced] at reached
        split_ifs at reached with none
        · exact zero reached
        · have late := least steps (Nat.pos_of_ne_zero none) reached
          omega
  have between : ∀ attempt, start ≤ attempt →
      attempt < start + untilZero (counter first clock start) →
        counter first clock attempt ≠ 0 := by
    intro attempt above below
    obtain ⟨gap, rfl⟩ := Nat.le.dest above
    exact running gap (by omega)
  refine ⟨?_, between⟩
  rw [counter_advanced _ between, if_neg positive.ne']
  exact back

theorem zero_then_clock {attempt : Nat} (zero : counter first clock attempt = 0) :
    counter first clock (attempt + 1) = clock (attempt + 1) := if_pos zero

/-! ## The attempts that read the clock -/

theorem reads_after_zero {attempt : Nat} (reads : ReadsClock first clock attempt) :
    ∃ before, attempt = before + 1 ∧ counter first clock before = 0 := by
  induction reads with
  | first even =>
      have start : 16 ∣ counter first clock 0 := even
      have reached := (counter_reaches_zero start).1
      rw [Nat.zero_add] at reached
      exact ⟨_, rfl, reached⟩
  | again earlier even ih =>
      obtain ⟨before, rfl, zero⟩ := ih
      have value := zero_then_clock zero
      rw [← value] at even ⊢
      exact ⟨_, rfl, (counter_reaches_zero even).1⟩

theorem reads_value {attempt : Nat} (reads : ReadsClock first clock attempt) :
    counter first clock attempt = clock attempt := by
  obtain ⟨before, rfl, zero⟩ := reads_after_zero reads
  exact zero_then_clock zero

theorem zero_place {start attempt : Nat} (above : start ≤ attempt)
    (running : ∀ between, start ≤ between → between < attempt → counter first clock between ≠ 0)
    (zero : counter first clock attempt = 0) :
    16 ∣ counter first clock start ∧ attempt = start + untilZero (counter first clock start) := by
  have even : 16 ∣ counter first clock start := by
    by_contra uneven
    obtain ⟨gap, rfl⟩ := Nat.le.dest above
    apply counter_uneven uneven gap
    rw [zero]
    exact Nat.dvd_zero 16
  obtain ⟨reached, before⟩ := counter_reaches_zero even
  refine ⟨even, Nat.le_antisymm ?_ ?_⟩
  · by_contra later
    exact running _ (Nat.le_add_right _ _) (Nat.lt_of_not_le later) reached
  · by_contra earlier
    exact before attempt above (Nat.lt_of_not_le earlier) zero

variable (first clock) in
theorem last_reading (attempt : Nat) :
    ∃ last ≤ attempt, (last = 0 ∨ ReadsClock first clock last) ∧
      ∀ between, last ≤ between → between < attempt → counter first clock between ≠ 0 := by
  induction attempt with
  | zero => exact ⟨0, le_rfl, .inl rfl, fun between _ below => absurd below (Nat.not_lt_zero _)⟩
  | succ attempt ih =>
      obtain ⟨last, below, set, running⟩ := ih
      by_cases zero : counter first clock attempt = 0
      · refine ⟨attempt + 1, le_rfl, .inr ?_, fun between above before => by omega⟩
        obtain ⟨even, place⟩ := zero_place below running zero
        rcases set with rfl | reads
        · rw [place, Nat.zero_add]
          exact .first even
        · rw [reads_value reads] at even place
          rw [place]
          exact .again reads even
      · refine ⟨last, Nat.le_succ_of_le below, set, ?_⟩
        intro between above before
        rcases Nat.lt_succ_iff_lt_or_eq.mp before with earlier | rfl
        · exact running between above earlier
        · exact zero

theorem reads_of_zero {attempt : Nat} (zero : counter first clock attempt = 0) :
    ReadsClock first clock (attempt + 1) := by
  obtain ⟨last, below, set, running⟩ := last_reading first clock (attempt + 1)
  rcases Nat.lt_succ_iff_lt_or_eq.mp (Nat.lt_succ_of_le below) with earlier | rfl
  · exact absurd zero (running attempt (Nat.le_of_lt_succ earlier) (Nat.lt_succ_self attempt))
  · exact set.resolve_left (Nat.succ_ne_zero attempt)

/-! ## When the first timestamp comes back -/

/-- A counter that goes round without becoming zero started from no multiple of 16. -/
theorem round_is_uneven {refused : Nat} (some : refused ≠ 0)
    (running : ∀ between, 0 ≤ between → between < refused → counter first clock between ≠ 0)
    (small : first < 65536) (round : 4096 ∣ refused) : ¬16 ∣ first := by
  intro even
  have nonzero : first ≠ 0 := running 0 le_rfl (Nat.pos_of_ne_zero some)
  have start : 16 ∣ counter first clock 0 := even
  have reached := (counter_reaches_zero start).1
  rw [Nat.zero_add] at reached
  have late : refused ≤ untilZero first := by
    by_contra early
    exact running _ (Nat.zero_le _) (Nat.lt_of_not_le early) reached
  rw [untilZero, if_neg nonzero] at late
  omega

theorem counter_returns_iff (refused : Nat) :
    counter first clock refused = first ↔ CounterReturns first clock refused := by
  constructor
  · intro returned
    obtain ⟨last, below, set, running⟩ := last_reading first clock refused
    obtain ⟨steps, rfl⟩ := Nat.le.dest below
    rw [counter_advanced steps running] at returned
    rcases set with rfl | reads
    · rw [Nat.zero_add] at running ⊢
      split_ifs at returned with none
      · exact .inl none
      · have start : counter first clock 0 = first := rfl
        rw [start] at returned
        have small : first < 65536 := by omega
        have round : 4096 ∣ steps := by omega
        exact .inr (.inl ⟨round_is_uneven none running small round, small, round⟩)
    · refine .inr (.inr ⟨last, below, reads, ?_, ?_⟩)
      · intro attempt inside later
        obtain ⟨before, rfl, zero⟩ := reads_after_zero later
        by_contra beyond
        exact running before (by omega) (by omega) zero
      · rw [reads_value reads] at returned
        split_ifs at returned with none
        · exact .inl ⟨by omega, returned⟩
        · refine .inr ⟨by omega, ?_⟩
          rw [Nat.add_sub_cancel_left]
          exact returned
  · rintro (none | ⟨uneven, small, round⟩ | ⟨last, below, reads, latest, value⟩)
    · rw [none]
      rfl
    · rw [uneven_counter uneven]
      split_ifs
      · rfl
      · omega
    · obtain ⟨steps, rfl⟩ := Nat.le.dest below
      have running : ∀ between, last ≤ between → between < last + steps →
          counter first clock between ≠ 0 := by
        intro between above before zero
        have reading := latest (between + 1) before (reads_of_zero zero)
        omega
      rw [counter_advanced steps running, reads_value reads]
      rw [Nat.add_sub_cancel_left] at value
      rcases value with ⟨here, same⟩ | ⟨further, same⟩
      · rw [if_pos (by omega), same]
      · rw [if_neg (by omega), same]

end

/-- A counter that is no multiple of 16 never becomes zero, so it only advances. -/
theorem counter_advances (first : UInt32) (uneven : ¬16 ∣ first.toNat) (fresh : UInt32)
    (further : List UInt32) :
    ((fresh :: further).foldl nextTstamp first).toNat =
      (first.toNat + 48 * (further.length + 1)) % 65536 := by
  have counted := fold_is_counter first (fresh :: further)
    (fun attempt => (first :: fresh :: further).getD attempt 0 |>.toNat) (by
      intro attempt each found
      rw [List.getD_cons_succ, List.getD_eq_getElem?_getD, found]
      rfl)
  rw [counted, uneven_counter uneven, if_neg (List.cons_ne_nil _ _ ∘ List.eq_nil_of_length_eq_zero)]
  rfl

end AoipCore.Timestamp
