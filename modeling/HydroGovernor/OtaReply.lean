import HydroGovernor.OtaUpdate

/-! What the client of an upload is told, and what the next boot runs. -/

namespace HydroGovernor

open Firmware

/-- There is a partition for the update, and every call that was made succeeded. -/
def AllSucceed (env : OtaEnv) (calls : List OtaCall) : Prop :=
  env.partition = true ∧ ∀ call ∈ calls, call.succeeded = true

/-- The next boot runs what the client has uploaded. -/
def BootsUpload (body : Bytes) (calls : List OtaCall) : Prop :=
  bootsUpdate calls = true ∧ .finish .ok ∈ calls ∧ written calls = body

def OtaResult.accepts (result : OtaResult) : Prop :=
  (∃ text, result.reply = .ok text) ∧ result.restarts = true

def OtaResult.refuses (result : OtaResult) : Prop :=
  (∃ text, result.reply = .error text) ∧ result.returned = some .fail ∧ result.restarts = false

/-- The client is told of success exactly when every call succeeded, which is when the next boot
runs the upload, and of an error in every other case; the results of the calls are those that the
environment gave. -/
structure TellsTruth (env : OtaEnv) (body : Bytes) (result : OtaResult) : Prop where
  answered : OtaAnswered env 0 body [] result.calls
  succeeded : result.accepts ↔ AllSucceed env result.calls
  boots : result.accepts ↔ BootsUpload body result.calls
  refused : ¬ AllSucceed env result.calls → result.refuses

theorem tellsTruth_refused {env : OtaEnv} {body : Bytes} {result : OtaResult}
    (answered : OtaAnswered env 0 body [] result.calls) (refuses : result.refuses)
    (failed : ¬ AllSucceed env result.calls)
    (unbooted : ∀ ret, OtaCall.setBoot ret ∉ result.calls) : TellsTruth env body result := by
  have notAccepted : ¬ result.accepts := by
    rintro ⟨_, restarts⟩
    rw [refuses.2.2] at restarts
    cases restarts
  constructor
  case answered => exact answered
  case succeeded => exact iff_of_false notAccepted failed
  case boots =>
      apply iff_of_false notAccepted
      rintro ⟨boots, _⟩
      rw [bootsUpdate_of_none unbooted] at boots
      cases boots
  case refused => exact fun _ => refuses

theorem tellsTruth_accepted {env : OtaEnv} {body : Bytes} {result : OtaResult}
    (answered : OtaAnswered env 0 body [] result.calls) (accepts : result.accepts) :
    TellsTruth env body result ↔ AllSucceed env result.calls ∧ BootsUpload body result.calls := by
  constructor
  · intro truth
    exact ⟨truth.succeeded.mp accepts, truth.boots.mp accepts⟩
  · rintro ⟨succeeded, boots⟩
    exact ⟨answered, iff_of_true accepts succeeded, iff_of_true accepts boots,
      fun failed => absurd succeeded failed⟩

theorem written_all_iff {env : OtaEnv} {body : Bytes} {buf : TrackedBuffer}
    {calls : List OtaCall} (room : buf.cells.length = otaBufSize)
    (ran : receiveLoop env (asInt body.length) body buf 0 = (calls, none)) :
    written calls = body ↔ body.length < 2 ^ 31 := by
  constructor
  · intro whole
    have ended := receiveLoop_ends env (asInt body.length) body buf 0
    rw [ran] at ended
    have atMost := ended.atMost
    have bound := asInt_lt body.length
    rw [whole] at atMost
    omega
  · intro fits
    have result := receiveLoop_result env (asInt body.length) body buf 0 (asInt_of_lt fits) room
    rw [ran] at result
    exact result.complete rfl

theorem complete_calls {env : OtaEnv} (partition : env.partition = true) {calls : List OtaCall}
    (loop : ∀ call ∈ calls, call.succeeded = true) (noBoot : ∀ ret, OtaCall.setBoot ret ∉ calls) :
    (AllSucceed env (.begin .ok :: calls ++ [.finish .ok, .setBoot env.setBoot]) ↔
        env.setBoot = .ok) ∧
      (bootsUpdate (.begin .ok :: calls ++ [.finish .ok, .setBoot env.setBoot]) = true ↔
        env.setBoot = .ok) := by
  have before : bootsUpdate calls = false := bootsUpdate_of_none noBoot
  rw [bootsUpdate] at before
  constructor
  · constructor
    · rintro ⟨_, succeeded⟩
      simpa [OtaCall.succeeded] using succeeded (.setBoot env.setBoot) (by simp)
    · intro boots
      refine ⟨partition, ?_⟩
      intro call member
      simp only [List.cons_append, List.mem_cons, List.mem_append, List.not_mem_nil,
        or_false] at member
      rcases member with rfl | inside | rfl | rfl
      · rfl
      · exact loop call inside
      · rfl
      · simp [OtaCall.succeeded, boots]
  · rw [bootsUpdate, List.cons_append, List.any_cons, List.any_append, before]
    simp

/-- An upload that comes to its end is reported truly when the boot partition is set and its length
fits an int. -/
theorem tellsTruth_complete {env : OtaEnv} {body : Bytes} {buf : TrackedBuffer}
    {calls : List OtaCall} (text : String) (partition : env.partition = true)
    (room : buf.cells.length = otaBufSize)
    (ran : receiveLoop env (asInt body.length) body buf 0 = (calls, none))
    (answered : OtaAnswered env 0 body []
      (.begin .ok :: calls ++ [.finish .ok, .setBoot env.setBoot])) :
    TellsTruth env body
        ⟨.begin .ok :: calls ++ [.finish .ok, .setBoot env.setBoot], .ok text, none, true⟩ ↔
      env.setBoot = .ok ∧ body.length < 2 ^ 31 := by
  have ended := receiveLoop_ends env (asInt body.length) body buf 0
  rw [ran] at ended
  obtain ⟨all_iff, boots_iff⟩ := complete_calls partition (ended.succeeded.mpr rfl) ended.noBoot
  have whole : written (.begin .ok :: calls ++ [.finish .ok, .setBoot env.setBoot]) =
      written calls := by
    rw [written_append]
    exact List.append_nil _
  have finished : OtaCall.finish .ok ∈
      .begin .ok :: calls ++ [.finish .ok, .setBoot env.setBoot] := by simp
  rw [tellsTruth_accepted answered ⟨⟨text, rfl⟩, rfl⟩, BootsUpload, all_iff, boots_iff, whole,
    written_all_iff room ran]
  constructor
  · rintro ⟨boots, _, _, fits⟩
    exact ⟨boots, fits⟩
  · rintro ⟨boots, fits⟩
    exact ⟨boots, boots, finished, fits⟩

/-- The client is told the truth exactly when a call in front of esp_ota_set_boot_partition
fails, or that call succeeds too and the length of the upload fits an int. -/
theorem ota_truth_iff (env : OtaEnv) (body : Bytes) (buf : TrackedBuffer)
    (room : buf.cells.length = otaBufSize) :
    TellsTruth env body (otaHandler env body buf) ↔
      FailsBeforeBoot env body ∨ (env.setBoot = .ok ∧ body.length < 2 ^ 31) := by
  have ended := receiveLoop_ends env (asInt body.length) body buf 0
  have answered := otaHandler_answered env body buf room
  unfold otaHandler at answered ⊢
  by_cases missing : env.partition = false
  · rw [if_pos missing] at answered ⊢
    apply iff_of_true _ (.inl (.inl missing))
    apply tellsTruth_refused answered ⟨⟨_, rfl⟩, rfl, rfl⟩
    · rintro ⟨partition, _⟩
      rw [missing] at partition
      cases partition
    · simp
  rw [if_neg missing] at answered ⊢
  by_cases failed : env.begins ≠ .ok
  · rw [if_pos failed] at answered ⊢
    apply iff_of_true _ (.inl (.inr (.inl failed)))
    apply tellsTruth_refused answered ⟨⟨_, rfl⟩, rfl, rfl⟩
    · rintro ⟨_, succeeded⟩
      exact failed (by simpa [OtaCall.succeeded] using succeeded)
    · simp
  rw [if_neg failed] at answered ⊢
  rcases ran : receiveLoop env (asInt body.length) body buf 0 with ⟨calls, _ | failure⟩
  · rw [ran] at ended answered
    dsimp only at answered ⊢
    by_cases invalid : env.ends ≠ .ok
    · rw [if_pos invalid] at answered ⊢
      apply iff_of_true _ (.inl (.inr (.inr (.inr invalid))))
      apply tellsTruth_refused answered ⟨⟨_, rfl⟩, rfl, rfl⟩
      · rintro ⟨_, all⟩
        have ends := all (.finish env.ends) (by simp)
        exact invalid (by simpa [OtaCall.succeeded] using ends)
      · simpa using ended.noBoot
    · have reaches : ¬ FailsBeforeBoot env body := by
        rintro (missing' | failed' | broken | invalid')
        · exact missing missing'
        · exact failed failed'
        · cases ended.fails.mpr broken
        · exact invalid invalid'
      rw [if_neg invalid] at answered ⊢
      rw [or_iff_right reaches]
      exact tellsTruth_complete _ (Bool.eq_true_of_not_eq_false missing) room ran answered
  · rw [ran] at ended answered
    apply iff_of_true _ (.inl (.inr (.inr (.inl (ended.fails.mp rfl)))))
    apply tellsTruth_refused answered ⟨⟨_, rfl⟩, rfl, rfl⟩
    · rintro ⟨_, succeeded⟩
      cases ended.succeeded.mp (fun call member => succeeded call (List.mem_cons_of_mem _ member))
    · simpa using ended.noBoot

theorem steady_truth :
    TellsTruth steadyEnv [1, 2, 3]
      (otaHandler steadyEnv [1, 2, 3] (.ofCells (List.replicate otaBufSize 0))) :=
  (ota_truth_iff steadyEnv [1, 2, 3] (.ofCells (List.replicate otaBufSize 0))
    List.length_replicate).mpr (.inr ⟨rfl, by decide⟩)

def unbootedEnv : OtaEnv := { steadyEnv with setBoot := .fail }

/-- The client is told of success, and the device restarts into the old firmware. -/
theorem unbooted_accepted :
    ¬ ∀ env body buf, buf.cells.length = otaBufSize →
      TellsTruth env body (otaHandler env body buf) := by
  intro every
  let buf := TrackedBuffer.ofCells (List.replicate otaBufSize 0)
  have room : buf.cells.length = otaBufSize := List.length_replicate
  have truth := every unbootedEnv [1, 2, 3] buf room
  have complete : (receiveLoop unbootedEnv (asInt 3) [1, 2, 3] buf 0).2 = none :=
    receiveLoop_succeeds (fun _ => rfl) (fun _ => rfl) (asInt 3) [1, 2, 3] buf 0
      (asInt_of_lt (by decide)) room
  rcases ran : receiveLoop unbootedEnv (asInt 3) [1, 2, 3] buf 0 with ⟨calls, _ | failure⟩
  · have accepted : (otaHandler unbootedEnv [1, 2, 3] buf).accepts ∧
        .setBoot .fail ∈ (otaHandler unbootedEnv [1, 2, 3] buf).calls := by
      rw [otaHandler, if_neg (by decide), if_neg (by decide)]
      simp only [List.length_cons, List.length_nil, Nat.reduceAdd, ran]
      rw [if_neg (by decide)]
      exact ⟨⟨⟨_, rfl⟩, rfl⟩, by simp [unbootedEnv]⟩
    have succeeded := (truth.succeeded.mp accepted.1).2 _ accepted.2
    cases succeeded
  · rw [ran] at complete
    cases complete

end HydroGovernor
