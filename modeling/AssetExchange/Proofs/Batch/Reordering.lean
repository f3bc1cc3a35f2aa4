import AssetExchange.Proofs.Batch.Ruling

/-!
# The order of reports

Two managers that make the same reports in different orders are told apart neither by
the elements of a result nor by the kind of its error.  Which report is named as the
breach of duty, and under `exception` which error of an element, depends on the order;
everything else is the same.
-/

namespace AssetExchange

variable {alpha tau : Type}

/-- How the results of two calls compare that heard the same reports in two orders. -/
inductive Alike
    (policy : ErrorPolicy) (subjects : List EntityReference)
    (access : Option Access) (reports others : List (Report alpha)) :
    Outcome (List (policy.Element alpha)) →
      Outcome (List (policy.Element alpha)) → Prop
  | complete (elements : List (policy.Element alpha)) :
      Alike policy subjects access reports others (.ok elements) (.ok elements)
  | unreported (index : Nat) :
      Alike policy subjects access reports others
        (.error (.unhandled (Fault.missingResult index).message))
        (.error (.unhandled (Fault.missingResult index).message))
  /-- Both managers broke their duty.  Each call names the breach that it heard
  first. -/
  | breached (fault other : Fault)
      (first : FirstBreach subjects.length reports fault)
      (second : FirstBreach subjects.length others other) :
      Alike policy subjects access reports others
        (.error (.unhandled fault.message)) (.error (.unhandled other.message))
  /-- Under `exception` each call ends with the error that it heard first. -/
  | elementFailed (index other : Nat) (error otherError : BatchElementError)
      (strict : policy = .exception)
      (first : FirstError reports index error)
      (second : FirstError others other otherError) :
      Alike policy subjects access reports others
        (.error (.batchElement index error
          (error.exceptionMessage index subjects[index]? access)))
        (.error (.batchElement other otherError
          (otherError.exceptionMessage other subjects[other]? access)))

variable {policy : ErrorPolicy} {subjects : List EntityReference}
  {access : Option Access} {reports others : List (Report alpha)}

/-- Results that compare are both lists of elements, and then the same, or neither
is. -/
theorem Alike.ok_iff {one other : Outcome (List (policy.Element alpha))}
    (alike : Alike policy subjects access reports others one other)
    (elements : List (policy.Element alpha)) :
    one = .ok elements ↔ other = .ok elements := by
  cases alike with
  | complete found =>
      rfl
  | unreported index =>
      rfl
  | breached fault otherFault first second =>
      simp
  | elementFailed index otherIndex error otherError strict first second =>
      simp

/-- The rules name comparable results for the same reports in two orders. -/
theorem Ruling.exists_alike (permuted : reports.Perm others)
    {outcome : Outcome (List (policy.Element alpha))}
    (ruling : Ruling policy subjects access reports (.ok ()) outcome) :
    ∃ other, Ruling policy subjects access others (.ok ()) other ∧
      Alike policy subjects access reports others outcome other := by
  have sameIndices : ∀ index,
      index ∈ others.map Report.index ↔ index ∈ reports.map Report.index :=
    fun index => (permuted.map Report.index).mem_iff.symm
  cases ruling with
  | breached fault first =>
      rcases Collector.dutiful_or_firstBreach subjects.length others with
        dutiful | ⟨other, second⟩
      · exact absurd (dutiful.perm permuted.symm) first.not_dutiful
      · exact ⟨_, .breached other second, .breached fault other first second⟩
  | elementFailed index error dutiful strict first =>
      rcases errorFree_or_firstError others with
        errorFree | ⟨other, otherError, second⟩
      · exact absurd (errorFree.perm permuted.symm) first.not_errorFree
      · exact ⟨_, .elementFailed other otherError (dutiful.perm permuted) strict second,
          .elementFailed index other error otherError strict first second⟩
  | unreported index dutiful errorFree inside missing smallest =>
      refine ⟨_, .unreported index (dutiful.perm permuted)
        (fun strict => (errorFree strict).perm permuted) inside ?_ ?_,
        .unreported index⟩
      · exact fun heard => missing ((sameIndices index).1 heard)
      · intro smaller below
        exact (sameIndices smaller).2 (smallest smaller below)
  | complete elements dutiful errorFree sameLength reported =>
      refine ⟨_, .complete elements (dutiful.perm permuted)
        (fun strict => (errorFree strict).perm permuted) sameLength ?_,
        .complete elements⟩
      intro index element held
      exact permuted.mem_iff.1 (reported index element held)

/-- The order of reports changes no result.  Of two calls whose managers make the same
reports in any two orders, and which return without an error of their own, one returns
elements exactly if the other returns the same ones, and otherwise they fail for the
same kind of reason. -/
theorem collect_answer_of_perm
    {first second : BatchRequest tau alpha} {firstState secondState : tau}
    (firstReceived : policy.Receives (first firstState) reports)
    (secondReceived : policy.Receives (second secondState) others)
    (permuted : reports.Perm others) :
    (∀ elements,
      (Manager.collect policy subjects access first firstState).answer =
          .ok elements ↔
        (Manager.collect policy subjects access second secondState).answer =
          .ok elements) ∧
      Alike policy subjects access reports others
        (Manager.collect policy subjects access first firstState).answer
        (Manager.collect policy subjects access second secondState).answer := by
  have compared :
      Alike policy subjects access reports others
        (Manager.collect policy subjects access first firstState).answer
        (Manager.collect policy subjects access second secondState).answer := by
    obtain ⟨one, ruling⟩ := exists_ruling policy subjects access reports
    obtain ⟨other, otherRuling, alike⟩ := ruling.exists_alike permuted
    rw [collect_answer_of_receives subjects access firstReceived,
      collect_answer_of_receives subjects access secondReceived,
      ruling.finish_eq, otherRuling.finish_eq]
    exact alike
  exact ⟨compared.ok_iff, compared⟩

/-- Two elements that fail, and a batch with a report beyond its end and one that is
repeated, in two orders each. -/
theorem collect_answer_of_perm_twoFailures :
    Alike .exception [⟨"a"⟩, ⟨"b"⟩] none
        ([⟨0, .error ⟨.authError, "no"⟩⟩, ⟨1, .error ⟨.unknown, "never"⟩⟩] :
          List (Report Nat))
        [⟨1, .error ⟨.unknown, "never"⟩⟩, ⟨0, .error ⟨.authError, "no"⟩⟩]
        (Manager.collect .exception [⟨"a"⟩, ⟨"b"⟩] none
          (.reporting [⟨0, .error ⟨.authError, "no"⟩⟩,
            ⟨1, .error ⟨.unknown, "never"⟩⟩]) ()).answer
        (Manager.collect .exception [⟨"a"⟩, ⟨"b"⟩] none
          (.reporting [⟨1, .error ⟨.unknown, "never"⟩⟩,
            ⟨0, .error ⟨.authError, "no"⟩⟩]) ()).answer ∧
      Alike .variant [⟨"a"⟩] none
        ([⟨0, .ok 1⟩, ⟨4, .ok 2⟩, ⟨0, .ok 3⟩] : List (Report Nat))
        [⟨4, .ok 2⟩, ⟨0, .ok 1⟩, ⟨0, .ok 3⟩]
        (Manager.collect .variant [⟨"a"⟩] none
          (.reporting [⟨0, .ok 1⟩, ⟨4, .ok 2⟩, ⟨0, .ok 3⟩]) ()).answer
        (Manager.collect .variant [⟨"a"⟩] none
          (.reporting [⟨4, .ok 2⟩, ⟨0, .ok 1⟩, ⟨0, .ok 3⟩]) ()).answer :=
  ⟨(collect_answer_of_perm
      (ErrorPolicy.receives_reporting _ _ _) (ErrorPolicy.receives_reporting _ _ _)
      (List.Perm.swap _ _ _)).2,
    (collect_answer_of_perm
      (ErrorPolicy.receives_reporting _ _ _) (ErrorPolicy.receives_reporting _ _ _)
      (List.Perm.swap _ _ _)).2⟩

end AssetExchange
