import NetDesign.Proofs.Description.Links

set_option autoImplicit false

namespace NetDesign.Description.SessionItem

variable {net : Network} {devices : List DeviceItem} {links : List LinkItem} {item : SessionItem}

theorem viaLink_decided (item : SessionItem) (links : List LinkItem) :
    DecidedBy (item.unlisted? links)
      (fun via => via = item.via.map .mk ∧
        ∀ position, item.via = some position → position < links.length)
      (item.viaLink links.length) := by
  unfold unlisted? viaLink
  cases item.via with
  | none => exact ⟨rfl, rfl, by simp⟩
  | some position =>
    rw [Option.bind_some]
    by_cases inside : position < links.length
    · simp only [if_pos inside]
      refine ⟨rfl, rfl, ?_⟩
      rintro _ ⟨⟩
      exact inside
    · simp only [if_neg inside]
      rfl

/-- The session that an item stands for, between two devices. -/
def session (item : SessionItem) (source target : DeviceId) : Session :=
  ⟨source, target, item.kind, item.direction, item.via.map .mk⟩

section Checked

variable {before : List SessionItem} (mirrors : (part devices links before).Mirrors net)
  {source target : DeviceId} (fromSource : deviceOf? devices item.source = some source)
  (fromTarget : deviceOf? devices item.target = some target)
include mirrors fromSource fromTarget

/-- A session is checked for being misled. -/
theorem checkSession_decided
    (inside : ∀ position, item.via = some position → position < links.length) :
    DecidedBy (item.misled? devices links) (fun _ => True)
      (made (net.checkSession (item.session source target))) := by
  unfold misled? Network.checkSession
  by_cases loop : item.source = item.target
  · have same : source = target := by
      rw [loop, fromTarget, Option.some.injEq] at fromSource
      exact fromSource.symm
    rw [if_pos loop, if_pos (by exact same), fromSource]
    rfl
  · have apart : source ≠ target := by
      rintro rfl
      exact loop (deviceOf?_injective fromSource fromTarget)
    rw [if_neg loop, if_neg (by exact apart)]
    unfold session
    cases via : item.via with
    | none => exact ⟨rfl, trivial⟩
    | some position =>
      obtain ⟨other, listed⟩ : ∃ other, links[position]? = some other :=
        ⟨_, List.getElem?_eq_getElem (inside position via)⟩
      obtain ⟨link, present, describes⟩ := exists_of_forall₂ mirrors.links listed
      have found : net.link ⟨position⟩ = .ok link := Network.link_eq_ok.mpr present
      have on := LinkItem.Describes.touches describes fromSource
      rw [Option.bind_some, listed, Option.bind_some, LinkItem.stray?]
      simp only [Option.map_some, found]
      by_cases ends : link.touches source
      · rw [if_pos (on.mp ends)]
        simp only [Bind.bind, Except.bind, if_pos ends]
        exact ⟨rfl, trivial⟩
      · rw [if_neg fun named => ends (on.mpr named), fromSource]
        simp only [Bind.bind, Except.bind, if_neg ends]
        rfl

theorem added_mirrors :
    (part devices links (before ++ [item])).Mirrors
      { net with
        speakers := (net.speakers.insert source ()).insert target ()
        sessions := net.sessions ++ [item.session source target] } where
  devices := mirrors.devices
  names := mirrors.names
  loopbacks := mirrors.loopbacks
  ospfDevices := mirrors.ospfDevices
  isisDevices := mirrors.isisDevices
  speakers d := by
    have before_it := mirrors.speakers d
    simp only [part, Network.hasDevice] at before_it ⊢
    rw [SortedMap.contains_insert, SortedMap.contains_insert, before_it]
    simp only [List.mem_append, List.mem_singleton, or_and_right, exists_or, exists_eq_left,
      fromSource, fromTarget, Option.some.injEq]
    constructor
    · rintro (rfl | rfl | described | ended)
      · exact .inr (.inr (.inr rfl))
      · exact .inr (.inr (.inl rfl))
      · exact .inl described
      · exact .inr (.inl ended)
    · rintro (described | ended | rfl | rfl)
      · exact .inr (.inr (.inl described))
      · exact .inr (.inr (.inr ended))
      · exact .inr (.inl rfl)
      · exact .inl rfl
  links := mirrors.links
  ipLinks := mirrors.ipLinks
  ospfLinks := mirrors.ospfLinks
  isisLinks := mirrors.isisLinks
  sessions := forall₂_concat mirrors.sessions
    { source := fromSource, target := fromTarget, kind := rfl, direction := rfl, via := rfl }
  blocks := mirrors.blocks

end Checked

/-- A session is added unless it is at fault. -/
theorem addTo_decided (devices : List DeviceItem) (links : List LinkItem)
    (before : List SessionItem) (item : SessionItem) (net : Network)
    (mirrors : (part devices links before).Mirrors net) :
    DecidedBy (item.fault? devices links) (part devices links (before ++ [item])).Mirrors
      (item.addTo links.length net) := by
  have faults : item.fault? devices links =
      (item.unlisted? links).or ((unknown? devices item.source).or
        ((unknown? devices item.target).or (item.misled? devices links))) := by
    simp [fault?, findSome?_cons_eq_or, Option.or_assoc]
  rw [faults]
  refine (viaLink_decided item links).bind ?_
  rintro via ⟨rfl, inside⟩
  refine (lookup_decided mirrors.names item.source).bind fun source fromSource => ?_
  refine (lookup_decided mirrors.names item.target).bind fun target fromTarget => ?_
  have decided := checkSession_decided mirrors fromSource fromTarget inside
  have present := present_of_deviceOf? mirrors.devices fromSource
  have reached := present_of_deviceOf? mirrors.devices fromTarget
  rw [← session]
  cases checked : net.checkSession (item.session source target) with
  | error e =>
    rw [checked] at decided
    rw [Network.addSession_of_unchecked checked]
    exact decided
  | ok _ =>
    rw [checked] at decided
    rw [Network.addSession_of_checked checked present reached]
    exact ⟨decided.1, added_mirrors mirrors fromSource fromTarget⟩

end NetDesign.Description.SessionItem
