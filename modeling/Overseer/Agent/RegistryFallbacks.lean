import Overseer.Agent.RegistryLoading

/-! # Fallbacks

Which fallbacks a registry accepts, and what it hands out when an instance is taken to another of its
providers.
-/
namespace Overseer.Agent.Registry
open Overseer.Library Json DepthFirst

/-! ### The graph of the fallbacks -/

/-- An instance of the one provider may fall back to the other. -/
def FallsBack (profiles : List ConfiguredProfile) (a b : String) : Prop :=
  ∃ p ∈ profiles, p.primaryProviderId = a ∧ b ∈ p.approvedFallbackProviderIds

def Cyclic (profiles : List ConfiguredProfile) : Prop := ∃ a, Relation.TransGen (FallsBack profiles) a a

/-- Every approved fallback can do what its instance requires. -/
def FallbacksSupport (profiles : List ConfiguredProfile) (providers : Dict ConfiguredProvider) : Prop :=
  ∀ p ∈ profiles, ∀ id ∈ p.approvedFallbackProviderIds, ∃ provider, providers.get? id = some provider ∧
    provider.capabilities.supports p.requiredCapabilities = true

section Graph
variable {profiles : List ConfiguredProfile} {providers : Dict ConfiguredProvider} {inOrder : List String → List String} {depth : ℕ}

/-- The loop over the profiles, from the graph so far. -/
theorem fallbackGraph_fold (graph : Dict (List String)) (a b : String) :
    (b ∈ ((profiles.foldl (fun graph profile => graph.set profile.primaryProviderId
      (((graph.get? profile.primaryProviderId).getD []) ++ profile.approvedFallbackProviderIds)) graph).get? a).getD [] ↔
      b ∈ (graph.get? a).getD [] ∨ FallsBack profiles a b) ∧
    (a ∈ (profiles.foldl (fun graph profile => graph.set profile.primaryProviderId
      (((graph.get? profile.primaryProviderId).getD []) ++ profile.approvedFallbackProviderIds)) graph).keys ↔
      a ∈ graph.keys ∨ ∃ p ∈ profiles, p.primaryProviderId = a) := by
  induction profiles generalizing graph with
  | nil =>
    constructor
    · refine ⟨.inl,fun h => h.elim id ?_⟩
      rintro ⟨p,hp,-⟩
      cases hp
    · refine ⟨.inl,fun h => h.elim id ?_⟩
      rintro ⟨p,hp,-⟩
      cases hp
  | cons p rest ih =>
    rw [List.foldl_cons]
    obtain ⟨hedge,hkeys⟩ := ih (graph.set p.primaryProviderId (((graph.get? p.primaryProviderId).getD []) ++ p.approvedFallbackProviderIds))
    constructor
    · rw [hedge,Dict.get?_set]
      unfold FallsBack
      by_cases ha : a = p.primaryProviderId
      · subst ha
        simp [or_assoc]
      · have hne : ¬ p.primaryProviderId = a := fun h => ha h.symm
        simp [ha,hne]
    · rw [hkeys,Dict.mem_keys_iff,Dict.mem_keys_iff]
      simp only [Dict.get?_set]
      by_cases ha : a = p.primaryProviderId
      · subst ha
        simp
      · have hne : ¬ p.primaryProviderId = a := fun h => ha h.symm
        simp [ha,hne]

theorem mem_fallbackGraph (a b : String) : b ∈ ((fallbackGraph profiles).get? a).getD [] ↔ FallsBack profiles a b := by
  have h := (@fallbackGraph_fold profiles Dict.empty a b).1
  unfold fallbackGraph
  rw [h]
  simp

theorem mem_fallbackGraph_keys (a : String) : a ∈ (fallbackGraph profiles).keys ↔ ∃ p ∈ profiles, p.primaryProviderId = a := by
  have h := (@fallbackGraph_fold profiles Dict.empty a a).2
  unfold fallbackGraph
  rw [h,Dict.mem_keys_iff]
  simp

/-- The providers of the profiles, and what each of them falls back to. -/
def providerGraph (profiles : List ConfiguredProfile) (inOrder : List String → List String) (hset : ∀ l a, a ∈ inOrder l ↔ a ∈ l) :
    Graph String where
  nodes := (profiles.flatMap (·.selectable)).toFinset
  after a := inOrder (((fallbackGraph profiles).get? a).getD [])
  closed := by
    intro a _ b hb
    obtain ⟨p,hp,-,hb⟩ := (mem_fallbackGraph a b).mp ((hset _ _).mp hb)
    exact List.mem_toFinset.mpr (List.mem_flatMap.mpr ⟨p,hp,List.mem_cons_of_mem _ hb⟩)

theorem providerGraph_edge (hset : ∀ l a, a ∈ inOrder l ↔ a ∈ l) (a b : String) :
    (providerGraph profiles inOrder hset).Edge a b ↔ FallsBack profiles a b := by
  constructor
  · rintro ⟨-,hb⟩
    exact (mem_fallbackGraph a b).mp ((hset _ _).mp hb)
  · intro h
    refine ⟨?_,(hset _ _).mpr ((mem_fallbackGraph a b).mpr h)⟩
    obtain ⟨p,hp,rfl,-⟩ := h
    exact List.mem_toFinset.mpr (List.mem_flatMap.mpr ⟨p,hp,List.mem_cons_self⟩)

theorem providerGraph_cyclic (hset : ∀ l a, a ∈ inOrder l ↔ a ∈ l) : (providerGraph profiles inOrder hset).Cyclic ↔ Cyclic profiles := by
  have hedge : (providerGraph profiles inOrder hset).Edge = FallsBack profiles := by
    funext a b
    exact propext (providerGraph_edge hset a b)
  unfold Graph.Cyclic Cyclic
  rw [hedge]

theorem fallbacksSupport_iff : (∀ profile ∈ profiles, ∀ id ∈ profile.approvedFallbackProviderIds,
    (providers.get? id).any (·.capabilities.supports profile.requiredCapabilities) = true) ↔ FallbacksSupport profiles providers := by
  unfold FallbacksSupport
  simp only [Option.any_eq_true]

def cycleError : AgentError := valueError "fallback cycle is not allowed"
def lackError : AgentError := valueError "fallback provider lacks required capabilities"

theorem validateFallbacks_cases (hset : ∀ l a, a ∈ inOrder l ↔ a ∈ l) (hdepth : (profiles.flatMap (·.selectable)).length < depth) :
    (validateFallbacks inOrder depth profiles providers = pure () ∧ ¬ Cyclic profiles ∧ FallbacksSupport profiles providers) ∨
    (validateFallbacks inOrder depth profiles providers = throw lackError ∧ ¬ Cyclic profiles ∧ ¬ FallbacksSupport profiles providers) ∨
    (validateFallbacks inOrder depth profiles providers = throw cycleError ∧ Cyclic profiles) := by
  let g := providerGraph profiles inOrder hset
  have horder : ∀ a ∈ (fallbackGraph profiles).keys, a ∈ g.nodes := by
    intro a ha
    obtain ⟨p,hp,rfl⟩ := (mem_fallbackGraph_keys a).mp ha
    exact List.mem_toFinset.mpr (List.mem_flatMap.mpr ⟨p,hp,List.mem_cons_self⟩)
  have hsource : ∀ a b, g.Edge a b → a ∈ (fallbackGraph profiles).keys := by
    intro a b hedge
    obtain ⟨p,hp,ha,-⟩ := (providerGraph_edge hset a b).mp hedge
    exact (mem_fallbackGraph_keys a).mpr ⟨p,hp,ha⟩
  have hcard : g.nodes.card < depth := (List.toFinset_card_le _).trans_lt hdepth
  unfold validateFallbacks
  rcases g.search_ends_of_sources cycleError (fun _ _ => rfl) horder hsource hcard with ⟨⟨s,hrun⟩,hacyclic⟩ | ⟨hrun,hcyclic⟩
  · have hacyclic' : ¬ Cyclic profiles := fun h => hacyclic ((providerGraph_cyclic hset).mpr h)
    by_cases hsupport : FallbacksSupport profiles providers
    · refine .inl ⟨?_,hacyclic',hsupport⟩
      rw [if_pos (fallbacksSupport_iff.mpr hsupport)]
      exact congrArg (fun search : ExceptT AgentError Option (String → Color) => search >>= fun _ => pure ()) hrun
    · refine .inr (.inl ⟨?_,hacyclic',hsupport⟩)
      rw [if_neg fun h => hsupport (fallbacksSupport_iff.mp h)]
      exact congrArg (fun search : ExceptT AgentError Option (String → Color) => search >>= fun _ => throw lackError) hrun
  · refine .inr (.inr ⟨?_,(providerGraph_cyclic hset).mp hcyclic⟩)
    exact congrArg (fun search : ExceptT AgentError Option (String → Color) => search >>= fun _ =>
      if ∀ profile ∈ profiles, ∀ id ∈ profile.approvedFallbackProviderIds,
        (providers.get? id).any (·.capabilities.supports profile.requiredCapabilities) then pure () else throw lackError) hrun

/-- In whichever order the sets of fallbacks are gone through, the validation ends, and its result says
whether a provider falls back to itself in the end, and if not, whether all fallbacks can take over. -/
theorem fallbacks_validated (hset : ∀ l a, a ∈ inOrder l ↔ a ∈ l) (hdepth : (profiles.flatMap (·.selectable)).length < depth) :
    (validateFallbacks inOrder depth profiles providers = throw cycleError ↔ Cyclic profiles) ∧
    (validateFallbacks inOrder depth profiles providers = throw lackError ↔ ¬ Cyclic profiles ∧ ¬ FallbacksSupport profiles providers) ∧
    (validateFallbacks inOrder depth profiles providers = pure () ↔ ¬ Cyclic profiles ∧ FallbacksSupport profiles providers) := by
  have herrors : (throw lackError : ExceptT AgentError Option Unit) ≠ throw cycleError := by
    intro h
    exact absurd (Except.error.inj (Option.some.inj h)) (by decide)
  have hthrow : ∀ {e : AgentError}, (throw e : ExceptT AgentError Option Unit) ≠ pure () := by
    intro e h
    cases Option.some.inj h
  rcases @validateFallbacks_cases profiles providers inOrder depth hset hdepth with ⟨hrun,hc,hs⟩ | ⟨hrun,hc,hs⟩ | ⟨hrun,hc⟩ <;> rw [hrun]
  · exact ⟨⟨fun h => absurd h.symm hthrow,fun h => absurd h hc⟩,⟨fun h => absurd h.symm hthrow,fun h => absurd hs h.2⟩,
      ⟨fun _ => ⟨hc,hs⟩,fun _ => rfl⟩⟩
  · exact ⟨⟨fun h => absurd h herrors,fun h => absurd h hc⟩,⟨fun _ => ⟨hc,hs⟩,fun _ => rfl⟩,⟨fun h => absurd h hthrow,fun h => absurd h.2 hs⟩⟩
  · exact ⟨⟨fun _ => hc,fun _ => rfl⟩,⟨fun h => absurd h.symm herrors,fun h => absurd hc h.1⟩,⟨fun h => absurd h hthrow,fun h => absurd hc h.1⟩⟩

end Graph

/-- Two instances that fall back to each other's provider. -/
def mutualFallbacks : List ConfiguredProfile :=
  [{ id := "main", primaryProviderId := "first", transport := .gateway, workspace := "/work", approvedFallbackProviderIds := ["second"] },
    { id := "spare", primaryProviderId := "second", transport := .gateway, workspace := "/work", approvedFallbackProviderIds := ["first"] }]

theorem fallbacks_validated_mutual : validateFallbacks id 5 mutualFallbacks Dict.empty = throw cycleError ∧ Cyclic mutualFallbacks := by
  have hrun : validateFallbacks id 5 mutualFallbacks Dict.empty = throw cycleError := by rfl
  exact ⟨hrun,(fallbacks_validated (fun _ _ => Iff.rfl) (by decide)).1.mp hrun⟩

/-! ### Taking an instance to another of its providers -/

/-- What the constructor of a profile asks for. -/
structure ProfileChecked (p : ConfiguredProfile) : Prop where
  id : ¬ isBlank p.id
  primary : ¬ isBlank p.primaryProviderId
  workspace : ¬ isBlank p.workspace
  adapter : ∀ id ∈ p.primaryAdapterId, ¬ isBlank id
  model : ∀ id ∈ p.modelProfileId, ¬ isBlank id
  session : ∀ id ∈ p.externalSessionId, ¬ isBlank id
  fallbacks : ∀ id ∈ p.approvedFallbackProviderIds, ¬ isBlank id
  distinct : p.approvedFallbackProviderIds.Nodup
  notItself : p.primaryProviderId ∉ p.approvedFallbackProviderIds
  references : ∀ name ∈ p.credentialReferences.keys, ¬ isBlank name

theorem requireIdentifiers_ok {values : List String} {label : String} :
    requireIdentifiers values label = .ok () ↔ ∀ value ∈ values, ¬ isBlank value := by
  unfold requireIdentifiers
  rw [forM_ok_iff]
  exact forall₂_congr fun value _ => ensure_ok

theorem checkProfile_iff (p : ConfiguredProfile) : checkProfile p = .ok () ↔ ProfileChecked p := by
  constructor
  · intro h
    obtain ⟨_,hidentity,h⟩ := except_bind_ok h
    obtain ⟨_,hid,hidentity⟩ := except_bind_ok hidentity
    obtain ⟨_,hprimary,hidentity⟩ := except_bind_ok hidentity
    obtain ⟨_,hworkspace,hadapter⟩ := except_bind_ok hidentity
    obtain ⟨_,hmodel,h⟩ := except_bind_ok h
    obtain ⟨_,hsession,h⟩ := except_bind_ok h
    obtain ⟨_,hfallbacks,h⟩ := except_bind_ok h
    obtain ⟨_,hdistinct,h⟩ := except_bind_ok h
    obtain ⟨_,hitself,hreferences⟩ := except_bind_ok h
    exact ⟨ensure_ok.mp hid,ensure_ok.mp hprimary,ensure_ok.mp hworkspace,
      fun id hmem => requireIdentifiers_ok.mp hadapter id (Option.mem_toList.mpr hmem),
      fun id hmem => requireIdentifiers_ok.mp hmodel id (Option.mem_toList.mpr hmem),
      fun id hmem => requireIdentifiers_ok.mp hsession id (Option.mem_toList.mpr hmem),
      requireIdentifiers_ok.mp hfallbacks,ensure_ok.mp hdistinct,ensure_ok.mp hitself,requireIdentifiers_ok.mp hreferences⟩
  · intro h
    have hidentifier : ∀ {value : String} (label : String), ¬ isBlank value → requireIdentifier value label = .ok () :=
      fun label hvalue => ensure_ok.mpr hvalue
    have hoptional : ∀ {value : Option String} (label : String), (∀ id ∈ value, ¬ isBlank id) → requireIdentifiers value.toList label = .ok () :=
      fun label hvalue => requireIdentifiers_ok.mpr fun id hmem => hvalue id (Option.mem_toList.mp hmem)
    have hworkspace : ensure (¬ isBlank p.workspace) (valueError "workspace must be non-empty") = .ok () := ensure_ok.mpr h.workspace
    have hdistinct : ensure p.approvedFallbackProviderIds.Nodup (valueError "fallback provider id values must be unique") = .ok () :=
      ensure_ok.mpr h.distinct
    have hitself : ensure (p.primaryProviderId ∉ p.approvedFallbackProviderIds) (valueError "primary provider cannot be its own fallback") =
      .ok () := ensure_ok.mpr h.notItself
    refine checkProfile_ok ?_ ?_
    · unfold checkIdentity
      rw [hidentifier _ h.id,hidentifier _ h.primary,hworkspace,hoptional _ h.adapter]
      rfl
    · unfold checkReferences
      rw [hoptional _ h.model,hoptional _ h.session,requireIdentifiers_ok.mpr h.fallbacks,hdistinct,hitself,
        requireIdentifiers_ok.mpr h.references]
      rfl

theorem selected_perm {p : ConfiguredProfile} (hp : ProfileChecked p) {id : String} (hid : id ∈ p.selectable) :
    (id :: p.selectable.filter (· ≠ id)).Perm p.selectable := by
  have hnodup : p.selectable.Nodup := List.nodup_cons.mpr ⟨hp.notItself,hp.distinct⟩
  have herase : p.selectable.filter (· ≠ id) = p.selectable.erase id := by
    rw [hnodup.erase_eq_filter]
    refine List.filter_congr fun a _ => ?_
    by_cases ha : a = id <;> simp [ha]
  rw [herase]
  exact (List.perm_cons_erase hid).symm

theorem required_ok {profiles : List ConfiguredProfile} {providers : Dict ConfiguredProvider}
    (h : validateRequiredSecretReferences profiles providers = .ok ()) {p : ConfiguredProfile} (hp : p ∈ profiles) {id : String}
    (hid : id ∈ p.selectable) {provider : ConfiguredProvider} (hprovider : providers.get? id = some provider) :
    ∀ name ∈ provider.requiredSecretReferences, name ∈ p.credentialReferences.keys := by
  intro name hname
  have hchecked := forM_ok_iff.mp h p hp
  dsimp only at hchecked
  split at hchecked
  · cases hchecked
  · next hnone =>
    have hmem : name ∈ p.selectable.flatMap fun id => ((providers.get? id).map (·.requiredSecretReferences)).getD [] := by
      refine List.mem_flatMap.mpr ⟨id,hid,?_⟩
      rw [hprovider]
      exact hname
    simpa using List.find?_eq_none.mp hnone name hmem

/-- The profile of an instance after it was taken to one of its providers. -/
structure SelectedFrom (p : ConfiguredProfile) (provider : ConfiguredProvider) (id : String) (selected : ConfiguredProfile) : Prop where
  primary : selected.primaryProviderId = id
  others : selected.selectable.Perm p.selectable
  checked : ProfileChecked selected
  adapter : selected.primaryAdapterId = some provider.adapterId ∧ provider.transports = [selected.transport]
  capabilities : selected.declaredCapabilities = provider.capabilities
  capable : id ≠ p.primaryProviderId → provider.capabilities.supports selected.requiredCapabilities = true
  secrets : ∀ name ∈ provider.requiredSecretReferences, name ∈ selected.credentialReferences.keys
  session : selected.externalSessionId = none

section Selection
variable {floatIsInt : String → ℤ → Bool} {resolve : String → Except AgentError String} {inOrder : List String → List String}
  {depth : ℕ} {committed : Mapping} {machine : Option Mapping} {r : AgentRegistry}

theorem providers_named {m : Mapping} {ds is : Dict Mapping} (hb : BuiltFrom resolve m r ds is) {id : String} {provider : ConfiguredProvider}
    (hprovider : r.providers.get? id = some provider) : provider.id = id ∧ ¬ isBlank provider.id ∧ ¬ isBlank provider.adapterId ∧
      ∃ transport, provider.transports = [transport] := by
  obtain ⟨record,hrecord,hbuild⟩ := fillFrom_get? hb.providers hprovider
  have hreads := providerFromRecord_reads hbuild
  have hfiled := recordsById_filed hb.providerRecords (id,record) ((Dict.mem_entries_iff _ _ _).mpr hrecord)
  obtain ⟨t,ht⟩ := hreads.transport
  exact ⟨Json.str.inj (hreads.id.symm.trans hfiled),hreads.named,hreads.adapterNamed,t,ht⟩

theorem fallbacks_support (h : validateFallbacks inOrder depth r.profiles.values r.providers = pure ()) :
    FallbacksSupport r.profiles.values r.providers := by
  unfold validateFallbacks at h
  dsimp only at h
  split at h
  · next hsupport => exact fallbacksSupport_iff.mp hsupport
  · cases hsearch : visitAll (fun id => .ok (inOrder (((fallbackGraph r.profiles.values).get? id).getD []))) (valueError "fallback cycle is not allowed")
        depth (fun _ => .fresh) (fallbackGraph r.profiles.values).keys with
    | none =>
      rw [hsearch] at h
      cases h
    | some result =>
      rw [hsearch] at h
      cases result <;> cases Option.some.inj h

/-- An instance of a loaded registry is taken to those of its own providers only, and to each of them: the
profile it then has passes the constructor, keeps the same providers as alternatives, and names the
secrets its new provider requires. -/
theorem selection_stays_approved (h : load floatIsInt resolve inOrder depth committed machine = pure r) {instanceId : String}
    {p : ConfiguredProfile} (hp : r.profiles.get? instanceId = some p) (id : String) :
    (id ∉ p.selectable → r.profileForProvider instanceId id =
      .error (valueError ("provider " ++ id ++ " is not approved for instance " ++ instanceId))) ∧
    (id ∈ p.selectable → ∃ provider selected, r.providers.get? id = some provider ∧ r.profileForProvider instanceId id = .ok selected ∧
      SelectedFrom p provider id selected) := by
  obtain ⟨⟨m,hm,ds,is,hb⟩,hfallbacks⟩ := load_ok h
  have hprofile : r.profile instanceId = .ok p := by
    unfold AgentRegistry.profile
    rw [hp]
  constructor
  · intro hid
    unfold AgentRegistry.profileForProvider
    have hrefused : ensure (id ∈ p.selectable) (valueError ("provider " ++ id ++ " is not approved for instance " ++ instanceId)) =
        .error (valueError ("provider " ++ id ++ " is not approved for instance " ++ instanceId)) := if_neg hid
    rw [hprofile,except_ok_bind,hrefused]
    rfl
  · intro hid
    obtain ⟨record,-,hrecord⟩ := fillFrom_get? hb.profiles hp
    have hreads := profileFromRecord_reads hrecord
    have hchecked := (checkProfile_iff p).mp hreads.checked
    have hmem : p ∈ r.profiles.values := Dict.mem_values_of_get? hp
    obtain ⟨provider,hprovider⟩ : ∃ provider, r.providers.get? id = some provider := by
      rcases List.mem_cons.mp hid with rfl | hfallback
      · exact Option.isSome_iff_exists.mp hreads.primary
      · exact Option.isSome_iff_exists.mp (hreads.configured id hfallback)
    obtain ⟨hname,hblank,hadapter,transport,htransport⟩ := providers_named hb hprovider
    have hperm : (p.select provider id).selectable.Perm p.selectable := by
      change (provider.id :: p.selectable.filter (· ≠ id)).Perm p.selectable
      rw [hname]
      exact selected_perm hchecked hid
    have hselectable : ∀ other ∈ p.selectable, ¬ isBlank other := by
      intro other hother
      rcases List.mem_cons.mp hother with rfl | hother
      · exact hchecked.primary
      · exact hchecked.fallbacks other hother
    have hnodup : p.selectable.Nodup := List.nodup_cons.mpr ⟨hchecked.notItself,hchecked.distinct⟩
    have hothers : (p.select provider id).approvedFallbackProviderIds = p.selectable.filter (· ≠ id) := rfl
    have hselected : ProfileChecked (p.select provider id) := by
      refine ⟨hchecked.id,hblank,hchecked.workspace,?_,hchecked.model,?_,?_,?_,?_,hchecked.references⟩
      · intro other hother
        cases hother
        exact hadapter
      · intro other hother
        cases hother
      · rw [hothers]
        exact fun other hother => hselectable other (List.mem_of_mem_filter hother)
      · rw [hothers]
        exact hnodup.filter _
      · change provider.id ∉ p.selectable.filter (· ≠ id)
        rw [hname]
        simp
    refine ⟨provider,p.select provider id,hprovider,?_,hname,hperm,hselected,⟨rfl,?_⟩,rfl,?_,required_ok hb.secrets hmem hid hprovider,rfl⟩
    · have happroved : ensure (id ∈ p.selectable) (valueError ("provider " ++ id ++ " is not approved for instance " ++ instanceId)) =
          .ok () := if_pos hid
      have hlookup : r.provider id = .ok provider := by
        unfold AgentRegistry.provider
        rw [hprovider]
      unfold AgentRegistry.profileForProvider
      rw [hprofile,except_ok_bind,happroved,except_ok_bind,hlookup,except_ok_bind,(checkProfile_iff _).mpr hselected]
      rfl
    · change provider.transports = [provider.transports.headD .interactiveCli]
      rw [htransport]
      rfl
    · intro hother
      have hfallback : id ∈ p.approvedFallbackProviderIds := (List.mem_cons.mp hid).resolve_left hother
      obtain ⟨provider',hprovider',hsupports⟩ := fallbacks_support hfallbacks p hmem id hfallback
      rw [hprovider] at hprovider'
      cases hprovider'
      exact hsupports

end Selection

theorem selection_stays_approved_pair : load (fun _ _ => false) .ok id 3 committedPair none = pure (registryPair "/shared") ∧
    ∃ provider selected, (registryPair "/shared").providers.get? "second" = some provider ∧
      (registryPair "/shared").profileForProvider "main" "second" = .ok selected ∧ selected.primaryProviderId = "second" ∧
      selected.declaredCapabilities = provider.capabilities := by
  have hload : load (fun _ _ => false) .ok id 3 committedPair none = pure (registryPair "/shared") := by rfl
  have hprofile : (registryPair "/shared").profiles.get? "main" = some _ := rfl
  have hselectable : "second" ∈ ["first","second"] := by decide
  obtain ⟨provider,selected,hprovider,hselected,hfrom⟩ := (selection_stays_approved hload hprofile "second").2 hselectable
  exact ⟨hload,provider,selected,hprovider,hselected,hfrom.primary,hfrom.capabilities⟩

end Overseer.Agent.Registry
