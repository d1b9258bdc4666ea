import CacheCluster.Command
import CacheCluster.Locator.Answer
import CacheCluster.Proofs.Json.Collections

/-!
# Reading requests, commands, replies and answers back

What clients, a locator and its members send each other reaches the other side as it was meant.

## Main results

* `Region.Config.reads_toJson`, `Command.reads_toJson` : what a locator sends.
* `Status.reads_toJson`, `MemberReply.reads_toJson` : what a member answers.
* `Report.reads_toJson`, `Answer.reads_toJson` : what is made of the words of all members.
* `wire_roundTrip` : all of them are read back from their text.
-/

namespace CacheCluster

open Json (Reads Fills reads_record reads_text reads_flag reads_uint32 reads_uint64 reads_int64
  reads_variant whole)

/-! ## Regions -/

namespace Region

theorem PartitionSpec.reads_toJson (s : PartitionSpec) :
    Reads PartitionSpec.reader s.toJson s := by
  have hfills : Fills PartitionSpec.record.fields PartitionSpec.record.start
      (Json.field? "colocated_with" (s.colocatedWith.map .str) ++
      (Json.field? "local_max_memory_mb" (s.localMaxMemoryMb.map fun n => .int n.toNat) ++
      (Json.field? "recovery_delay_ms" (s.recoveryDelayMs.map fun n => .int n.toInt) ++
      (Json.field? "redundant_copies" (s.redundantCopies.map fun n => .int n.toNat) ++
      (Json.field? "startup_recovery_delay_ms" (s.startupRecoveryDelayMs.map fun n =>
        .int n.toInt) ++
      (Json.field? "total_max_memory_mb" (s.totalMaxMemoryMb.map fun n => .int n.toNat) ++
      (Json.field? "total_num_buckets" (s.totalNumBuckets.map fun n => .int n.toNat) ++
      (Json.field? "partition_resolver" (s.partitionResolver.map .str) ++ [])))))))) s := by
    apply Fills.optional rfl reads_text (by simp)
    apply Fills.optional rfl reads_uint32 (by simp)
    apply Fills.optional rfl reads_int64 (by simp)
    apply Fills.optional rfl reads_uint32 (by simp)
    apply Fills.optional rfl reads_int64 (by simp)
    apply Fills.optional rfl reads_uint64 (by simp)
    apply Fills.optional rfl reads_uint32 (by simp)
    apply Fills.optional rfl reads_text (by simp)
    exact Fills.nil s
  simp only [List.append_nil, ← List.append_assoc] at hfills
  exact reads_record (by decide) hfills

theorem DataPolicy.reads_tag (p : DataPolicy) : Reads DataPolicy.reader (.str p.tag) p := by
  apply reads_variant
  cases p <;> decide

theorem Attributes.reads_toJson (a : Attributes) : Reads Attributes.reader a.toJson a := by
  have hfills : Fills AttributeParts.record.fields AttributeParts.record.start
      (("data_policy", .str a.policy.tag) ::
        (Json.field? "partition_spec" (a.spec?.map PartitionSpec.toJson) ++ []))
      ⟨a.policy, a.spec?⟩ := by
    apply Fills.mandatory (DataPolicy.reads_tag _)
    apply Fills.optional rfl PartitionSpec.reads_toJson (by simp [PartitionSpec.toJson])
    exact Fills.nil _
  rw [List.append_nil] at hfills
  have hparts := reads_record (by decide) hfills
  intro rest n hrest
  refine (Json.bind_of_ok (hparts rest n hrest)).trans ?_
  simp only [Attributes.ofParts_parts]
  rfl

theorem Config.reads_toJson (c : Config) : Reads Config.reader c.toJson c := by
  refine reads_record (by decide) ?_
  apply Fills.mandatory (reads_text _)
  apply Fills.mandatory (Attributes.reads_toJson _)
  exact Fills.nil _

theorem Request.reads_toJson (r : Request) : Reads Request.reader r.toJson r := by
  refine reads_record (by decide) ?_
  apply Fills.mandatory (reads_text _)
  apply Fills.mandatory (reads_text _)
  exact Fills.nil _

end Region

/-! ## Commands and replies -/

theorem Command.reads_toJson (c : Command) : Reads Command.reader c.toJson c := by
  refine reads_record (by decide) ?_
  apply Fills.mandatory (reads_text _)
  apply Fills.mandatory (Region.Config.reads_toJson _)
  apply Fills.mandatory (reads_flag _)
  apply Fills.mandatory (reads_text _)
  exact Fills.nil _

theorem Verdict.reads_tag (v : Verdict) : Reads Verdict.reader (.str v.tag) v := by
  apply reads_variant
  cases v <;> decide

theorem Status.reads_toJson (s : Status) : Reads Status.reader s.toJson s := by
  have hfills : Fills Status.record.fields Status.record.start
      (("result", .str s.verdict.tag) ::
        (Json.field? "message" (s.message?.map .str) ++ [])) s := by
    apply Fills.mandatory (Verdict.reads_tag _)
    apply Fills.optional rfl reads_text (by simp)
    exact Fills.nil _
  rw [List.append_nil] at hfills
  exact reads_record (by decide) hfills

theorem MemberReply.reads_toJson (r : MemberReply) : Reads MemberReply.reader r.toJson r := by
  refine reads_record (by decide) ?_
  apply Fills.mandatory (reads_text _)
  apply Fills.mandatory (Status.reads_toJson _)
  exact Fills.nil _

/-! ## Reports and answers -/

theorem Report.reads_toJson (r : Report) : Reads Report.reader r.toJson r := by
  refine reads_record (by decide) ?_
  apply Fills.mandatory (Reads.table Status.reads_toJson r.statuses)
  exact Fills.nil _

theorem FailedMember.reads_toJson (f : FailedMember) :
    Reads FailedMember.reader f.toJson f := by
  refine reads_record (by decide) ?_
  apply Fills.mandatory (reads_text _)
  apply Fills.mandatory (reads_text _)
  exact Fills.nil _

theorem Answer.reads_metadata (url : String) :
    Reads (Json.record Answer.metadataRecord) (.obj [("url", .str url)]) url := by
  refine reads_record (by decide) ?_
  apply Fills.mandatory (reads_text _)
  exact Fills.nil _

theorem Answer.reads_toJson (a : Answer) : Reads Answer.reader a.toJson a := by
  have hfills : Fills Answer.record.fields Answer.record.start
      (Json.field? "metadata" (a.url?.map fun url => .obj [("url", .str url)]) ++
      (Json.field? "message" (a.message?.map .str) ++
      (Json.field? "failed_members"
        (if a.failedMembers.isEmpty then none
          else some (.arr (a.failedMembers.map FailedMember.toJson))) ++ []))) a := by
    apply Fills.optional rfl Answer.reads_metadata (by simp)
    apply Fills.optional rfl reads_text (by simp)
    apply Fills.list rfl FailedMember.reads_toJson
    exact Fills.nil a
  simp only [List.append_nil, ← List.append_assoc] at hfills
  exact reads_record (by decide) hfills

/-- **Round trip.**  Requests, commands, replies, reports and answers are read back from the text
that they are written as, so that no two commands are written as the same text. -/
theorem wire_roundTrip :
    (∀ r : Region.Request, whole Region.Request.reader r.toJson.render = .ok r) ∧
    (∀ c : Command, whole Command.reader c.toJson.render = .ok c) ∧
    (∀ r : MemberReply, whole MemberReply.reader r.toJson.render = .ok r) ∧
    (∀ r : Report, whole Report.reader r.toJson.render = .ok r) ∧
    (∀ a : Answer, whole Answer.reader a.toJson.render = .ok a) ∧
    ∀ c d : Command, c.toJson.render = d.toJson.render → c = d :=
  ⟨fun r => r.reads_toJson.whole, fun c => c.reads_toJson.whole, fun r => r.reads_toJson.whole,
    fun r => r.reads_toJson.whole, fun a => a.reads_toJson.whole,
    fun _ _ => Reads.injective Command.reads_toJson⟩

end CacheCluster
