import AssetExchange.Proofs.Catalogue.Publishing
import AssetExchange.Proofs.Traits.Restriction

/-!
# What resolving returns

A catalogue resolves a reference by restricting the data that it holds for it
(`resolution`).  Under `variant` a call returns this for every reference, in the order of
the references, whatever the order of the reports is and whatever happened before
(`resolving_restricts`).
-/

namespace AssetExchange

open Catalogue

/-- What resolving a reference comes to: the error given to the reference, whether or not
data are held for it, or else the held data restricted to the traits. -/
def resolution (errors : Dictionary BatchElementError) (held : String → Option TraitsData)
    (traits : TraitSet) (reference : EntityReference) : ElementOutcome TraitsData :=
  match errors.get? reference.text, held reference.text with
  | some error, _ => .error error
  | none, some data => .ok (data.restrict traits)
  | none, none =>
      .error ⟨.invalidEntityReference, "Entity '" ++ reference.text ++ "' not found"⟩

theorem lookUp_map_restrict (catalogue : Catalogue) (traits : TraitSet)
    (reference : EntityReference) :
    (catalogue.lookUp reference).map (·.restrict traits) =
      resolution catalogue.elementErrors catalogue.entity? traits reference := by
  unfold lookUp unlessError resolution
  cases catalogue.elementErrors.get? reference.text with
  | some error =>
      rfl
  | none =>
      cases catalogue.entity? reference.text <;> rfl

theorem resolveMany_answer {manager : Manager Catalogue}
    (noFailure : manager.state.callFailure = none) (references : List EntityReference)
    (traits : TraitSet) (access : ResolveAccess) (context : Context) :
    (Manager.resolveMany plugin .variant references traits access context manager).answer =
      .ok (references.map
        (resolution manager.state.elementErrors manager.state.entity? traits)) := by
  have returned := (BatchCall.resolve references traits access context).answer_collect_ask
    rfl noFailure rfl (some access.mode)
  have outcomes : (BatchCall.resolve references traits access context).outcomes manager.state =
      references.map (resolution manager.state.elementErrors manager.state.entity? traits) :=
    List.map_congr_left fun reference _ =>
      lookUp_map_restrict manager.state traits reference
  rw [outcomes] at returned
  exact returned

/-- A restriction has the traits that are in the bundle and in the set, with the properties
that they have in the bundle.  Unless calls fail as a whole, resolving many references
returns for each of them its error if it has one, and otherwise the restriction of what is
held for it then, or that nothing is held. -/
theorem resolving_restricts (data : TraitsData) (traits : TraitSet)
    (manager : Manager Catalogue) :
    data.RestrictionLaw traits ∧
      (manager.state.callFailure = none →
        ∀ events : List (ManagerEvent CataloguePager (Option ApiError)),
          let later := runEvents plugin refusing events manager
          ∀ references access context,
            (Manager.resolveMany plugin .variant references traits access context
                later).answer =
              .ok (references.map
                (resolution manager.state.elementErrors later.state.entity? traits))) := by
  refine ⟨data.restrictionLaw traits, ?_⟩
  intro noFailure events later references access context
  have served : later.state.callFailure = none :=
    (callFailure_runEvents events manager).trans noFailure
  -- The errors of references are part of the set-up.
  rw [← elementErrors_eq_of_setUp_eq (setUp_runEvents events manager)]
  exact resolveMany_answer served references traits access context

/-- Asked backwards after `publishTwice`: data without the trait, a refused reference, data
with it and a reference that is not held. -/
theorem resolving_restricts_backwards :
    backwards.callFailure = none ∧
      (Manager.resolveMany plugin .variant [⟨"d"⟩, ⟨"b"⟩, ⟨"a"⟩, ⟨"c"⟩] (.ofList ["first"])
          ⟨.read, List.mem_cons_self⟩ .empty
          (runEvents plugin refusing publishTwice (.ofState backwards))).answer =
        .ok [.ok .empty, .error ⟨.authError, "denied"⟩, .ok (bundle "first"),
          .error ⟨.invalidEntityReference, "Entity 'c' not found"⟩] := by
  have noFailure : backwards.callFailure = none := rfl
  obtain ⟨_, returned⟩ :=
    resolving_restricts .empty (.ofList ["first"]) (.ofState backwards)
  exact ⟨noFailure, (returned noFailure publishTwice _ _ _).trans rfl⟩

end AssetExchange
