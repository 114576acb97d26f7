import Overseer.Agent.RegistrySecrets

/-! # What a loaded registry was built from

Every provider and every instance of a loaded registry comes from a record that is filed under its id, and
its constructor has passed.
-/
namespace Overseer.Agent.Registry
open Overseer.Library Json

/-! ### Records by id -/

/-- Every record has the id it is filed under. -/
def FiledById (es : List (String × Mapping)) : Prop := ∀ e ∈ es, get e.2 "id" = .str e.1

theorem recordsById_filed {value : Json} {label : String} {records : Dict Mapping} (h : recordsById value label = .ok records) :
    FiledById records.entries := by
  obtain ⟨items,-,h⟩ := except_bind_ok h
  refine foldlM_ok_invariant (I := fun d => FiledById d.entries) h ?_ ?_
  · intro e he
    cases he
  · intro d record d' _ hd hstep e he
    obtain ⟨mapping,-,hstep⟩ := except_bind_ok hstep
    split at hstep
    · next id hid =>
      obtain ⟨_,-,hstep⟩ := except_bind_ok hstep
      obtain ⟨_,-,hstep⟩ := except_bind_ok hstep
      cases hstep
      rcases Dict.mem_assign he with rfl | he
      · exact hid
      · exact hd e he
    · cases hstep

/-! ### What the records say -/

theorem requireText_ok {record : Mapping} {key message s : String} (h : requireText record key message = .ok s) : get record key = .str s := by
  unfold requireText at h
  split at h
  · next t ht =>
    obtain ⟨_,-,h⟩ := except_bind_ok h
    cases h
    exact ht
  · cases h

/-- What an accepted record says of its provider. -/
structure ReadsProvider (record : Mapping) (p : ConfiguredProvider) : Prop where
  id : get record "id" = .str p.id
  transport : ∃ t, p.transports = [t]
  named : ¬ isBlank p.id
  adapterNamed : ¬ isBlank p.adapterId

theorem providerFromRecord_reads {resolve : String → Except AgentError String} {record : Mapping} {p : ConfiguredProvider}
    (h : providerFromRecord resolve record = .ok p) : ReadsProvider record p := by
  obtain ⟨_,-,h⟩ := except_bind_ok h
  obtain ⟨id,hid,h⟩ := except_bind_ok h
  obtain ⟨adapter,-,h⟩ := except_bind_ok h
  obtain ⟨_,-,h⟩ := except_bind_ok h
  obtain ⟨transport,-,h⟩ := except_bind_ok h
  obtain ⟨_,-,h⟩ := except_bind_ok h
  obtain ⟨_,-,h⟩ := except_bind_ok h
  obtain ⟨paths,-,h⟩ := except_bind_ok h
  obtain ⟨enabled,-,h⟩ := except_bind_ok h
  obtain ⟨items,-,h⟩ := except_bind_ok h
  obtain ⟨_,hnamed,h⟩ := except_bind_ok h
  obtain ⟨_,hadapterNamed,h⟩ := except_bind_ok h
  obtain ⟨_,-,h⟩ := except_bind_ok h
  obtain ⟨references,-,h⟩ := except_bind_ok h
  cases h
  exact ⟨requireText_ok hid,⟨transport,rfl⟩,ensure_ok.mp hnamed,ensure_ok.mp hadapterNamed⟩

/-- What an accepted record says of its instance: it names providers of the registry, and it passes its constructor. -/
structure ReadsProfile (providers : Dict ConfiguredProvider) (p : ConfiguredProfile) : Prop where
  primary : (providers.get? p.primaryProviderId).isSome
  configured : ∀ id ∈ p.approvedFallbackProviderIds, (providers.get? id).isSome
  checked : checkProfile p = .ok ()

theorem fallbackIds_ok {providers : Dict ConfiguredProvider} {value : Json} {ids : List String} (h : fallbackIds providers value = .ok ids) :
    ∀ id ∈ ids, (providers.get? id).isSome := by
  unfold fallbackIds at h
  split at h
  · next items =>
    obtain ⟨_,hids,h⟩ := except_bind_ok h
    cases h
    exact (ensure_ok.mp hids).2
  · cases h

theorem primaryProvider_ok {providers : Dict ConfiguredProvider} {id : String} {primary : ConfiguredProvider}
    (h : primaryProvider providers id = .ok primary) : providers.get? id = some primary := by
  unfold primaryProvider at h
  split at h
  · next p hp =>
    cases h
    exact hp
  · cases h

theorem checkProfile_ok {p : ConfiguredProfile} (hidentity : checkIdentity p = .ok ()) (hreferences : checkReferences p = .ok ()) :
    checkProfile p = .ok () := by
  unfold checkProfile
  rw [hidentity]
  exact hreferences

theorem profileFromRecord_reads {providers : Dict ConfiguredProvider} {record : Mapping} {p : ConfiguredProfile}
    (h : profileFromRecord providers record = .ok p) : ReadsProfile providers p := by
  obtain ⟨_,-,h⟩ := except_bind_ok h
  obtain ⟨id,-,h⟩ := except_bind_ok h
  obtain ⟨primaryId,-,h⟩ := except_bind_ok h
  obtain ⟨primary,hprimary,h⟩ := except_bind_ok h
  obtain ⟨workspace,-,h⟩ := except_bind_ok h
  obtain ⟨ids,hids,h⟩ := except_bind_ok h
  obtain ⟨_,-,h⟩ := except_bind_ok h
  obtain ⟨required,-,h⟩ := except_bind_ok h
  obtain ⟨references,-,h⟩ := except_bind_ok h
  obtain ⟨_,hidentity,h⟩ := except_bind_ok h
  obtain ⟨modelProfileId,-,h⟩ := except_bind_ok h
  obtain ⟨_,hreferences,h⟩ := except_bind_ok h
  cases h
  exact ⟨Option.isSome_iff_exists.mpr ⟨primary,primaryProvider_ok hprimary⟩,fallbackIds_ok hids,checkProfile_ok hidentity hreferences⟩

/-! ### Loading -/

section Loading
variable {floatIsInt : String → ℤ → Bool} {resolve : String → Except AgentError String} {inOrder : List String → List String}
  {depth : ℕ} {committed m : Mapping} {machine : Option Mapping} {r : AgentRegistry}

/-- What a loaded registry was built from. -/
structure BuiltFrom (resolve : String → Except AgentError String) (m : Mapping) (r : AgentRegistry) (ds is : Dict Mapping) : Prop where
  providerRecords : recordsById (getList m "providers") "providers" = .ok ds
  providers : fillFrom (providerFromRecord resolve) ds = .ok r.providers
  instanceRecords : recordsById (getList m "instances") "instances" = .ok is
  profiles : fillFrom (profileFromRecord r.providers) is = .ok r.profiles
  secrets : validateRequiredSecretReferences r.profiles.values r.providers = .ok ()

theorem build_ok (h : build floatIsInt resolve m = .ok r) : ∃ ds is, BuiltFrom resolve m r ds is := by
  obtain ⟨_,-,h⟩ := except_bind_ok h
  obtain ⟨ds,hds,h⟩ := except_bind_ok h
  obtain ⟨ps,hps,h⟩ := except_bind_ok h
  obtain ⟨is,his,h⟩ := except_bind_ok h
  obtain ⟨qs,hqs,h⟩ := except_bind_ok h
  obtain ⟨_,hsecrets,h⟩ := except_bind_ok h
  cases h
  exact ⟨ds,is,hds,hps,his,hqs,hsecrets⟩

/-- A configuration is loaded when it is built and its fallbacks pass. -/
theorem load_ok (h : load floatIsInt resolve inOrder depth committed machine = pure r) :
    (∃ m, configure floatIsInt committed machine = .ok m ∧ ∃ ds is, BuiltFrom resolve m r ds is) ∧
      validateFallbacks inOrder depth r.profiles.values r.providers = pure () := by
  unfold load at h
  cases hbuilt : configure floatIsInt committed machine >>= build floatIsInt resolve with
  | error e =>
    rw [hbuilt] at h
    cases Option.some.inj h
  | ok r' =>
    rw [hbuilt] at h
    obtain ⟨m,hm,hbuild⟩ := except_bind_ok hbuilt
    change (validateFallbacks inOrder depth r'.profiles.values r'.providers >>= fun _ => pure r') = pure r at h
    cases hfallbacks : validateFallbacks inOrder depth r'.profiles.values r'.providers with
    | none =>
      rw [hfallbacks] at h
      cases h
    | some result =>
      rw [hfallbacks] at h
      cases result with
      | error e => cases Option.some.inj h
      | ok u =>
        have hr : r' = r := Except.ok.inj (Option.some.inj h)
        rw [← hr]
        exact ⟨⟨m,hm,build_ok hbuild⟩,hfallbacks⟩

end Loading

/-- An instance of one provider that may be given to another. -/
def committedPair : Mapping :=
  [("providers",.arr [
    .obj [("id",.str "first"),("adapter",.str "codex"),("transport",.str "interactive_cli"),("executable",.str "codex")],
    .obj [("id",.str "second"),("adapter",.str "antigravity"),("transport",.str "gateway"),("capabilities",.obj [("handoff_import",.bool true)])]]),
   ("instances",.arr [
    .obj [("id",.str "main"),("primary_provider_id",.str "first"),("workspace",.str "/shared"),("fallback_provider_ids",.arr [.str "second"])]])]

/-- The registry of the pair on a machine with the workspace. -/
def registryPair (workspace : String) : AgentRegistry where
  providers := Dict.empty.merge [
    ("first",{ id := "first", adapterId := "codex", transports := [.interactiveCli], executableAllowlist := ["codex"] }),
    ("second",{ id := "second", adapterId := "antigravity", transports := [.gateway], capabilities := { handoffImport := true } })]
  profiles := Dict.empty.merge [
    ("main",{
      id := "main"
      primaryProviderId := "first"
      transport := .interactiveCli
      workspace := workspace
      primaryAdapterId := some "codex"
      requiredCapabilities := { handoffImport := true }
      approvedFallbackProviderIds := ["second"] })]

end Overseer.Agent.Registry
