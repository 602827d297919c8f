import Phrasebook.ErrorRecord

/-!
# Which error is kept

Keeping the best error as one goes along is the same as listing all error
records and choosing the first one of the highest quality.  The choice may be
made in parts: what a part of the list has kept can be merged into what was kept
before it.
-/

namespace Phrasebook

/-- The record is the first one of the highest quality in the list. -/
def ErrorRecord.Foremost (record : ErrorRecord) (records : List ErrorRecord) :
    Prop :=
  ∃ earlier later, records = earlier ++ record :: later ∧
    (∀ other ∈ earlier, other.quality.rank < record.quality.rank) ∧
    ∀ other ∈ later, other.quality.rank ≤ record.quality.rank

def ErrorRecord.Ranked (record : ErrorRecord) : Prop :=
  0 < record.quality.rank

theorem ErrorRecord.Foremost.mem {record : ErrorRecord} {records : List ErrorRecord}
    (foremost : record.Foremost records) : record ∈ records := by
  obtain ⟨earlier, later, rfl, _, _⟩ := foremost
  simp

namespace BestError

/-- An error is kept together with its message. -/
def Sound (best : BestError) : Prop :=
  best.message = none → best = empty

theorem sound_empty : Sound empty :=
  fun _ => rfl

theorem record_of_lt {best : BestError} {failure : ErrorRecord}
    (better : best.quality.rank < failure.quality.rank) :
    best.record failure = ⟨failure.quality, some failure.message⟩ :=
  if_pos better

theorem record_of_le {best : BestError} {failure : ErrorRecord}
    (notBetter : failure.quality.rank ≤ best.quality.rank) :
    best.record failure = best :=
  if_neg (Nat.not_lt.mpr notBetter)

theorem sound_record {best : BestError} (sound : Sound best)
    (failure : ErrorRecord) :
    Sound (best.record failure) := by
  unfold record
  split
  · intro silent
    cases silent
  · exact sound

@[simp] theorem merge_empty (best : BestError) : best.merge empty = best := rfl

private theorem merge_some (best : BestError) (quality : ErrorQuality)
    (message : Text) :
    best.merge ⟨quality, some message⟩ = best.record ⟨quality, message⟩ := rfl

/-- Merging and then taking a failure into account is the same as taking it into
account before merging. -/
theorem merge_record {best other : BestError} (sound : Sound other)
    (failure : ErrorRecord) :
    best.merge (other.record failure) = (best.merge other).record failure := by
  by_cases better : other.quality.rank < failure.quality.rank
  · rw [record_of_lt better, merge_some]
    obtain ⟨quality, message⟩ := other
    cases message with
    | none => rw [sound rfl, merge_empty]
    | some message =>
        rw [merge_some]
        by_cases kept : best.quality.rank < quality.rank
        · have step : best.record ⟨quality, message⟩ = ⟨quality, some message⟩ :=
            record_of_lt kept
          rw [step, record_of_lt better]
          exact record_of_lt (Nat.lt_trans kept better)
        · have step : best.record ⟨quality, message⟩ = best :=
            record_of_le (Nat.not_lt.mp kept)
          rw [step]
  · have notBetter : failure.quality.rank ≤ other.quality.rank :=
      Nat.not_lt.mp better
    rw [record_of_le notBetter, record_of_le]
    obtain ⟨quality, message⟩ := other
    cases message with
    | none =>
        rw [sound rfl] at notBetter ⊢
        exact Nat.le_trans notBetter (Nat.zero_le _)
    | some message =>
        rw [merge_some]
        by_cases kept : best.quality.rank < quality.rank
        · rwa [record_of_lt kept]
        · rw [record_of_le (Nat.not_lt.mp kept)]
          exact Nat.le_trans notBetter (Nat.not_lt.mp kept)

theorem merge_eq {best other : BestError} (sound : Sound other) :
    best.merge other = if best.quality.rank < other.quality.rank then other
      else best := by
  obtain ⟨quality, message⟩ := other
  cases message with
  | none =>
      rw [sound rfl, merge_empty]
      exact (if_neg (Nat.not_lt_zero _)).symm
  | some message => rfl

private theorem merge_foldl_record {best other : BestError} (sound : Sound other)
    (records : List ErrorRecord) :
    best.merge (records.foldl record other) =
      records.foldl record (best.merge other) := by
  induction records generalizing other with
  | nil => rfl
  | cons failure records induction =>
      calc
        best.merge ((failure :: records).foldl record other)
            = records.foldl record (best.merge (other.record failure)) :=
          induction (sound_record sound failure)
        _ = (failure :: records).foldl record (best.merge other) := by
          rw [merge_record sound failure]
          rfl

theorem sound_foldl_record {best : BestError} (sound : Sound best)
    (records : List ErrorRecord) :
    Sound (records.foldl record best) := by
  induction records generalizing best with
  | nil => exact sound
  | cons failure records induction => exact induction (sound_record sound failure)

theorem merge_ofRecords (best : BestError) (records : List ErrorRecord) :
    best.merge (ofRecords records) = records.foldl record best :=
  merge_foldl_record sound_empty records

theorem foldl_record_cases (best : BestError) (records : List ErrorRecord) :
    (records.foldl record best = best ∧
        ∀ other ∈ records, other.quality.rank ≤ best.quality.rank) ∨
      ∃ failure : ErrorRecord, failure.Foremost records ∧
      best.quality.rank < failure.quality.rank ∧
        records.foldl record best = ⟨failure.quality, some failure.message⟩ := by
  induction records generalizing best with
  | nil => exact .inl ⟨rfl, by simp⟩
  | cons first records induction =>
      by_cases better : best.quality.rank < first.quality.rank
      · have step : best.record first = ⟨first.quality, some first.message⟩ :=
          record_of_lt better
        right
        rcases induction (best.record first) with
          ⟨kept, notBetter⟩ | ⟨failure, foremost, above, kept⟩
        · refine ⟨first, ⟨[], records, rfl, by simp, ?_⟩, better, ?_⟩
          · simpa [step] using notBetter
          · rw [List.foldl_cons, kept, step]
        · obtain ⟨earlier, later, rfl, before, behind⟩ := foremost
          simp only [step] at above
          refine ⟨failure,
            ⟨first :: earlier, later, rfl, ?_, behind⟩, by omega, kept⟩
          intro other member
          rcases List.mem_cons.mp member with rfl | member
          · exact above
          · exact before other member
      · have step : best.record first = best := record_of_le (Nat.not_lt.mp better)
        rcases induction best with ⟨kept, notBetter⟩
          | ⟨failure, foremost, above, kept⟩
        · left
          refine ⟨by rw [List.foldl_cons, step, kept], ?_⟩
          intro other member
          rcases List.mem_cons.mp member with rfl | member
          · exact Nat.not_lt.mp better
          · exact notBetter other member
        · right
          obtain ⟨earlier, later, rfl, before, behind⟩ := foremost
          refine ⟨failure, ⟨first :: earlier, later, rfl, ?_, behind⟩, above, ?_⟩
          · intro other member
            rcases List.mem_cons.mp member with rfl | member
            · omega
            · exact before other member
          · rw [List.foldl_cons, step, kept]

/-- Of ranked records the first one of the highest quality is kept; without records
nothing is. -/
theorem ofRecords_cases {records : List ErrorRecord}
    (ranked : ∀ record ∈ records, record.Ranked) :
    (records = [] ∧ (ofRecords records).record? = none) ∨
      ∃ failure : ErrorRecord, failure.Foremost records ∧
        (ofRecords records).record? = some failure := by
  rcases foldl_record_cases empty records with ⟨kept, notBetter⟩
    | ⟨failure, foremost, _, kept⟩
  · left
    cases records with
    | nil => exact ⟨rfl, rfl⟩
    | cons first records =>
        have above : 0 < first.quality.rank := ranked first List.mem_cons_self
        have below : first.quality.rank ≤ 0 := notBetter first List.mem_cons_self
        omega
  · right
    exact ⟨failure, foremost, by simp [ofRecords, kept, record?]⟩

private theorem rank_le_ofRecords {record : ErrorRecord}
    {records : List ErrorRecord} (member : record ∈ records) :
    record.quality.rank ≤ (ofRecords records).quality.rank := by
  rcases foldl_record_cases empty records with ⟨kept, notBetter⟩
    | ⟨failure, foremost, _, kept⟩
  · rw [ofRecords, kept]
    exact notBetter record member
  · obtain ⟨earlier, later, rfl, before, behind⟩ := foremost
    rw [ofRecords, kept]
    rcases List.mem_append.mp member with member | member
    · exact Nat.le_of_lt (before record member)
    rcases List.mem_cons.mp member with rfl | member
    · exact Nat.le_refl _
    · exact behind record member

theorem rank_ofRecords_mono {records more : List ErrorRecord}
    (subset : records ⊆ more) :
    (ofRecords records).quality.rank ≤ (ofRecords more).quality.rank := by
  rcases foldl_record_cases empty records
    with ⟨kept, _⟩ | ⟨failure, foremost, _, kept⟩
  · rw [ofRecords, kept]
    exact Nat.zero_le _
  · rw [ofRecords, kept]
    exact rank_le_ofRecords (subset foremost.mem)

end BestError

end Phrasebook
