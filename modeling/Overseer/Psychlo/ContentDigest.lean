import Overseer.Psychlo.CanonicalText
import Overseer.Psychlo.RoundResults
import Overseer.Library.JsonContent
import Overseer.Library.JsonRoundTrip

/-! # What a canonical digest identifies

The canonical text of a value can be parsed, and what is parsed of it has the content of the
value; values of one content have one canonical text. A digest is therefore of a content,
once a top-level digest is left out.
-/
namespace Overseer.Psychlo
open Overseer.Library Overseer.Library.Json Overseer.Agent

/-! ### One text is one content -/

theorem sameContent_of_canonical (v : Json) : ∀ w, written v = true → written w = true → Host.canonical v = Host.canonical w →
    sameContent v w = true := by
  refine of_parts (P := fun v => ∀ w, written v = true → written w = true → Host.canonical v = Host.canonical w →
    sameContent v w = true) ?_ ?_ ?_ v
  · intro v harr hobj w hv hw h
    rw [sameContent_iff_eq harr hobj]
    obtain ⟨c,z,hc,hbegins⟩ := canonical_begins hv
    rw [h] at hc
    obtain ⟨d,z',hd,hbegins'⟩ := canonical_begins hw
    obtain ⟨rfl,-⟩ := List.cons.inj (hc.symm.trans hd)
    rcases hbegins.same hbegins' with ⟨hv',hw'⟩ | ⟨s,t,rfl,rfl⟩ | ⟨vs,ws,rfl,-⟩ | ⟨es,fs,rfl,-⟩
    · refine word_eq {} false hv' hw' ?_
      rw [← canonical_word hv',← canonical_word hw',h]
    · have htext : quoteChars false s ++ [] = quoteChars false t ++ [] := by rw [← canonical_str,← canonical_str,h]
      rw [(quoteChars_read htext).1]
    · exact absurd rfl (harr vs)
    · exact absurd rfl (hobj es)
  · intro vs ih w hv hw h
    obtain ⟨c,z,hc,hbegins⟩ := canonical_begins hv
    rw [h] at hc
    obtain ⟨d,z',hd,hbegins'⟩ := canonical_begins hw
    obtain ⟨rfl,-⟩ := List.cons.inj (hc.symm.trans hd)
    rcases hbegins.same hbegins' with ⟨hv',-⟩ | ⟨s,t,hs,-⟩ | ⟨vs',ws,hvs,rfl⟩ | ⟨es,fs,hes,-⟩
    · cases hv'
    · cases hs
    · rw [written,writtenItems_iff] at hv hw
      have htext : (Host.canonical (.arr vs)).toList = (Host.canonical (.arr ws)).toList := congrArg _ h
      rw [canonical_arr,canonical_arr] at htext
      have hstart : ∀ v ∈ vs ++ ws, ∃ c z, (Host.canonical v).toList = c :: z ∧ isClosing c = false := by
        intro v hv'
        obtain ⟨c,z,hc,hbegins⟩ := canonical_begins ((List.mem_append.mp hv').elim (hv v) (hw v))
        exact ⟨c,z,hc,hbegins.not_closing⟩
      have hread : ∀ v ∈ vs, ∀ w ∈ ws, ∀ x y, Ends x → Ends y → (Host.canonical v).toList ++ x = (Host.canonical w).toList ++ y →
          sameContent v w = true ∧ x = y := by
        intro v hv' w hw' x y hx hy hitem
        obtain ⟨hsame,hxy⟩ := canonical_read (hv v hv') (hw w hw') hx hy hitem
        exact ⟨ih v hv' w (hv v hv') (hw w hw') hsame,hxy⟩
      obtain ⟨hsame,-⟩ := separated_read rfl (by decide) hstart hread (List.cons.inj htext).2
      rw [sameContent,sameContentItems_iff]
      exact hsame
    · cases hes
  · intro es ih w hv hw h
    obtain ⟨c,z,hc,hbegins⟩ := canonical_begins hv
    rw [h] at hc
    obtain ⟨d,z',hd,hbegins'⟩ := canonical_begins hw
    obtain ⟨rfl,-⟩ := List.cons.inj (hc.symm.trans hd)
    rcases hbegins.same hbegins' with ⟨hv',-⟩ | ⟨s,t,hs,-⟩ | ⟨vs,ws,hvs,-⟩ | ⟨es',fs,hes,rfl⟩
    · cases hv'
    · cases hs
    · cases hvs
    · rw [written,Bool.and_eq_true,writtenMembers_iff] at hv hw
      obtain ⟨hperm,-⟩ := canonicalMembers_read (x := []) (y := []) (fun e _ => oneText e.2) hv.2 hw.2 (by rw [h])
      rw [sameContent,Bool.and_eq_true,beq_iff_eq,sameContentMembers_iff]
      refine ⟨length_of_perm hperm,fun e he => ?_⟩
      obtain ⟨w,hmem,hvalue⟩ := member_of_perm hperm he
      exact ⟨w,hmem,ih e he w (hv.2 e he) (hw.2 _ hmem) hvalue⟩

/-! ### One content has one text -/

theorem canonicalItems_eq_map (items : List Json) : Host.canonicalItems items = items.map Host.canonical := by
  induction items with
  | nil => rfl
  | cons v rest ih => rw [Host.canonicalItems,ih,List.map_cons]

theorem canonical_of_sameContent (v : Json) : ∀ w, written v = true → written w = true → sameContent v w = true →
    Host.canonical v = Host.canonical w := by
  refine of_parts (P := fun v => ∀ w, written v = true → written w = true → sameContent v w = true →
    Host.canonical v = Host.canonical w) ?_ ?_ ?_ v
  · intro v harr hobj w _ _ h
    rw [(sameContent_iff_eq harr hobj w).mp h]
  · intro vs ih w hv hw h
    cases w with
    | arr ws =>
      rw [written,writtenItems_iff] at hv hw
      rw [sameContent,sameContentItems_iff] at h
      have htexts : vs.map Host.canonical = ws.map Host.canonical := by
        induction h with
        | nil => rfl
        | cons hhead _ ihrest =>
          rw [List.map_cons,List.map_cons,ih _ List.mem_cons_self _ (hv _ List.mem_cons_self) (hw _ List.mem_cons_self) hhead,
            ihrest (fun v hv' => ih v (List.mem_cons_of_mem _ hv')) (fun v hv' => hv v (List.mem_cons_of_mem _ hv'))
              fun w hw' => hw w (List.mem_cons_of_mem _ hw')]
      rw [Host.canonical,Host.canonical,canonicalItems_eq_map,canonicalItems_eq_map,htexts]
    | _ => cases h
  · intro es ih w hv hw h
    cases w with
    | obj fs =>
      rw [written,Bool.and_eq_true,writtenMembers_iff,decide_eq_true_eq] at hv hw
      rw [sameContent,Bool.and_eq_true,beq_iff_eq,sameContentMembers_iff] at h
      obtain ⟨hlength,hmembers⟩ := h
      refine canonical_of_members_perm hv.1 ?_
      rw [canonicalMembers_eq_map,canonicalMembers_eq_map]
      have hsubset : (es.map fun e => (e.1,Host.canonical e.2)) ⊆ fs.map fun e => (e.1,Host.canonical e.2) := by
        intro t ht
        obtain ⟨e,he,rfl⟩ := List.mem_map.mp ht
        obtain ⟨w,hmem,hsame⟩ := hmembers e he
        rw [ih e he w (hv.2 e he) (hw.2 _ hmem) hsame]
        exact List.mem_map_of_mem hmem
      have hnodup : (es.map fun e => (e.1,Host.canonical e.2)).Nodup := by
        refine List.Nodup.of_map Prod.fst ?_
        rw [List.map_map]
        exact hv.1
      exact (hnodup.subperm hsubset).perm_of_length_le (by rw [List.length_map,List.length_map,hlength])
    | _ => cases h

/-! ### A canonical text can be parsed -/

variable {floatText : String → String}

theorem reads_canonical (v : Json) : Printed floatText v → Reads floatText (Host.canonical v).toList (sortKeys v) := by
  refine of_parts (P := fun v => Printed floatText v → Reads floatText (Host.canonical v).toList (sortKeys v)) ?_ ?_ ?_ v
  · intro v harr hobj h
    have htext : (Host.canonical v).toList = dumpsChars {} false v := by
      cases v with
      | arr items => exact absurd rfl (harr items)
      | obj members => exact absurd rfl (hobj members)
      | _ => exact String.toList_ofList
    have hsort : sortKeys v = v := by
      cases v with
      | arr items => exact absurd rfl (harr items)
      | obj members => exact absurd rfl (hobj members)
      | _ => rfl
    rw [htext,hsort]
    exact reads_dumps false v h
  · intro vs ih h
    have hitems := reads_arr (fun v => (Host.canonical v).toList) sortKeys fun v hv => ih v hv (printed_arr.mp h v hv)
    rw [canonical_arr,sortKeys,sortItems_eq_map]
    exact hitems
  · intro es ih h
    obtain ⟨hkeys,hvalues⟩ := printed_obj.mp h
    let sorted := es.insertionSort fun a b => textLe a.1 b.1
    have hperm : sorted.Perm es := List.perm_insertionSort _ _
    have htexts : ((Host.canonicalMembers es).insertionSort fun a b => textLe a.1 b.1) = sorted.map fun e => (e.1,Host.canonical e.2) := by
      rw [canonicalMembers_eq_map]
      exact (List.map_insertionSort (fun a b => textLe a.1 b.1) (fun a b => textLe a.1 b.1) (fun e => (e.1,Host.canonical e.2)) es
        fun _ _ _ _ => Iff.rfl).symm
    have hmembers : sortedMembers es = sorted.map fun e => (e.1,sortKeys e.2) := by
      rw [sortedMembers,sortMembers_eq_map]
      exact (List.map_insertionSort (fun a b => textLe a.1 b.1) (fun a b => a.1.toList ≤ b.1.toList) (fun e => (e.1,sortKeys e.2)) es
        fun _ _ _ _ => Iff.rfl).symm
    have hread := reads_obj true (fun e : String × Json => (Host.canonical e.2).toList) (fun e => sortKeys e.2)
      ((hperm.map Prod.fst).nodup_iff.mpr hkeys)
      fun e he => ih e (hperm.mem_iff.mp he) (hvalues e (hperm.mem_iff.mp he))
    rw [canonical_obj,htexts,sortKeys_obj,hmembers,List.map_map]
    exact hread

/-- A digest is of the content without a top-level digest, whatever the order of the members. The canonical text is
JSON for the value and for no value of other content. -/
theorem canonical_digest_identifies (host : Host) (hinj : Function.Injective host.sha256) (a b : Payload) (ha : Payload.written a)
    (hb : Payload.written b) :
    (host.canonicalDigest a = host.canonicalDigest b ↔
      sameContent (.obj (a.erase "digest").entries) (.obj (b.erase "digest").entries) = true) ∧
    (∀ v w, Json.written v = true → Json.written w = true → (Host.canonical v = Host.canonical w ↔ sameContent v w = true)) ∧
    ∀ (floatText : String → String) (v : Json), Printed floatText v →
      loads floatText (Host.canonical v) = some (sortKeys v) ∧ sameContent (sortKeys v) v = true := by
  have htexts : ∀ v w, Json.written v = true → Json.written w = true → (Host.canonical v = Host.canonical w ↔ sameContent v w = true) :=
    fun v w hv hw => ⟨sameContent_of_canonical v w hv hw,canonical_of_sameContent v w hv hw⟩
  refine ⟨?_,htexts,fun floatText v h => ⟨loads_of_reads (reads_canonical v h),sameContent_sortKeys v⟩⟩
  rw [canonicalDigest_eq,canonicalDigest_eq,hinj.eq_iff]
  exact htexts _ _ (written_erase ha _) (written_erase hb _)

/-- Two payloads that name their members in another order and carry different digests. -/
theorem canonical_digest_identifies_reordered :
    exampleHost.canonicalDigest (.ofList [("b",.int 1),("a",.arr [.str "\n",.float "0.5"]),("digest",.str "x")]) =
      exampleHost.canonicalDigest (.ofList [("a",.arr [.str "\n",.float "0.5"]),("b",.int 1)]) ∧
    exampleHost.canonicalDigest (.ofList [("b",.int 1)]) ≠ exampleHost.canonicalDigest (.ofList [("b",.float "1.0")]) := by
  have hinj : Function.Injective exampleHost.sha256 := fun _ _ h => h
  constructor
  · have hcontent := canonical_digest_identifies exampleHost hinj (.ofList [("b",.int 1),("a",.arr [.str "\n",.float "0.5"]),("digest",.str "x")])
      (.ofList [("a",.arr [.str "\n",.float "0.5"]),("b",.int 1)]) (by unfold Payload.written; decide) (by unfold Payload.written; decide)
    exact hcontent.1.mpr (by decide)
  · have hcontent := canonical_digest_identifies exampleHost hinj (.ofList [("b",.int 1)]) (.ofList [("b",.float "1.0")])
      (by unfold Payload.written; decide) (by unfold Payload.written; decide)
    exact fun h => absurd (hcontent.1.mp h) (by decide)

end Overseer.Psychlo
