import DeviceHub.Proofs.QueryText
import DeviceHub.Proofs.SortedMap
import DeviceHub.Topic.Route

/-!
Events through their topics: `route_publish` after `encode_properties`.  What is read from a query
of ids and properties is told by the map of its pairs; so an event that was sent with valid options
comes in again with its ids and with all properties that the hub does not keep for itself.
-/
namespace DeviceHub

namespace Text

lemma after?_append (start rest : String) : after? start (start ++ rest) = some rest := by
  have hstart : startsWith start (start ++ rest) = true := by
    simp [startsWith, String.toList_append]
  rw [after?, if_pos hstart, String.toList_append, List.drop_left, String.ofList_toList]

end Text

namespace Topic

lemma isSystemKey_idKeys : isSystemKey messageIdKey = true ∧ isSystemKey correlationIdKey = true ∧
    isSystemKey destinationKey = true := by
  decide

lemma idKeys_ne : messageIdKey ≠ correlationIdKey ∧ messageIdKey ≠ destinationKey ∧
    correlationIdKey ≠ destinationKey := by
  decide

/-- The event of pairs in ascending order: every id under its own name, and every property of an
application. -/
lemma foldl_addProperty {pairs : KeyMap String} (h : pairs.Sorted) (e : Event)
    (hlt : ∀ p ∈ e.properties, ∀ q ∈ pairs, p.1 < q.1) :
    pairs.foldl addProperty e = { e with
      messageId := (pairs.find? messageIdKey).or e.messageId
      correlationId := (pairs.find? correlationIdKey).or e.correlationId
      destination := (pairs.find? destinationKey).or e.destination
      properties := e.properties ++ pairs.filter fun pair => !isSystemKey pair.1 } := by
  induction pairs generalizing e with
  | nil => simp
  | cons pair rest ih =>
    obtain ⟨key, value⟩ := pair
    obtain ⟨hless, hrest⟩ := KeyMap.sorted_cons.1 h
    obtain ⟨hmessage, hcorrelation, hdestination⟩ := isSystemKey_idKeys
    obtain ⟨hmc, hmd, hcd⟩ := idKeys_ne
    have hnone : KeyMap.find? key rest = none := KeyMap.find?_eq_none_of_lt hless
    have hkeep : ∀ p ∈ e.properties, ∀ q ∈ rest, p.1 < q.1 := fun p hp q hq =>
      hlt p hp q (List.mem_cons_of_mem _ hq)
    rw [List.foldl_cons, addProperty]
    split
    next hkey =>
      subst hkey
      rw [ih hrest]
      · simp [hnone, hmessage, hmc, hmd]
      · exact hkeep
    next hmid =>
      split
      next hkey =>
        subst hkey
        rw [ih hrest]
        · simp [hnone, hcorrelation, hmc.symm, hcd]
        · exact hkeep
      next hcid =>
        split
        next hkey =>
          subst hkey
          rw [ih hrest]
          · simp [hnone, hdestination, hmd.symm, hcd.symm]
          · exact hkeep
        next hto =>
          split
          next hsystem =>
            rw [ih hrest]
            · simp [hsystem, hmid, hcid, hto]
            · exact hkeep
          next happlication =>
            have hinsert : e.properties.insert key value = e.properties ++ [(key, value)] :=
              KeyMap.insert_of_forall_lt (fun p hp => hlt p hp _ List.mem_cons_self) value
            rw [ih hrest]
            · simp [happlication, hmid, hcid, hto, hinsert]
            · intro p hp q hq
              rw [hinsert] at hp
              obtain hp | hp := List.mem_append.1 hp
              · exact hkeep p hp q hq
              · obtain rfl := List.mem_singleton.1 hp
                exact hless q hq

def optionPair (name : String) (value : Option String) : KeyMap String :=
  (value.map fun value => (name, value)).toList

lemma sorted_optionPair (name : String) (value : Option String) :
    (optionPair name value).Sorted := by
  cases value with
  | none => exact KeyMap.sorted_nil
  | some value => exact List.pairwise_singleton _ _

lemma find?_optionPair (name key : String) (value : Option String) :
    (optionPair name value).find? key = if name = key then value else none := by
  cases value <;> simp [optionPair]

/-- What an event says under a name: its properties first, then its ids. -/
lemma find?_propertyPairs {e : Event} (h : e.properties.Sorted) (key : String) :
    (KeyMap.ofList (propertyPairs e)).find? key =
      (e.properties.find? key).or
        ((if correlationIdKey = key then e.correlationId else none).or
          (if messageIdKey = key then e.messageId else none)) := by
  have hpairs : KeyMap.ofList (propertyPairs e) =
      KeyMap.insertAll e.properties
        (KeyMap.insertAll (optionPair correlationIdKey e.correlationId)
          (KeyMap.insertAll (optionPair messageIdKey e.messageId) [])) := by
    simp only [KeyMap.ofList, propertyPairs, KeyMap.insertAll, optionPair, List.foldl_append]
  rw [hpairs, h.find?_insertAll, (sorted_optionPair _ _).find?_insertAll,
    (sorted_optionPair _ _).find?_insertAll, find?_optionPair, find?_optionPair]
  simp only [KeyMap.find?_nil, Option.or_none]

def IsApplicationKey (key : String) : Prop :=
  SendOptions.isReserved key = false

lemma startsWith_dollar_of_application {key : String} (h : IsApplicationKey key) :
    Text.startsWith "$." key = false := by
  have hhead : key.toList.head? ≠ some '$' := by
    simp only [IsApplicationKey, SendOptions.isReserved, Bool.or_eq_false_iff] at h
    simpa using h.2
  cases hchars : key.toList with
  | nil => simp [Text.startsWith, hchars]
  | cons c rest =>
    have hc : ¬ '$' = c := by
      rintro rfl
      exact hhead (by rw [hchars]; rfl)
    simp [Text.startsWith, hchars, List.isPrefixOf, hc]

end Topic

namespace SendOptions

/-- Valid options use names of applications only. -/
lemma isApplicationKey_of_validate {o : SendOptions} (valid : o.validate = .ok ()) :
    ∀ p ∈ o.properties, Topic.IsApplicationKey p.1 := by
  intro p hp
  unfold validate at valid
  split at valid
  · cases valid
  · split at valid
    · cases valid
    · split at valid
      next => cases valid
      next hnone =>
        have := List.find?_eq_none.1 hnone p.1 (List.mem_map_of_mem hp)
        simpa [Topic.IsApplicationKey] using this

end SendOptions

namespace Topic

lemma find?_eq_none_of_dollar {properties : KeyMap String}
    (h : ∀ p ∈ properties, IsApplicationKey p.1) {key : String}
    (hkey : Text.startsWith "$." key = true) : properties.find? key = none := by
  refine KeyMap.find?_eq_none fun p hp heq => ?_
  have := startsWith_dollar_of_application (h p hp)
  rw [heq, hkey] at this
  cases this

/-- Of all pairs of an event, those of applications are its properties but for what the hub keeps
for itself. -/
lemma filter_propertyPairs {e : Event} (sorted : e.properties.Sorted)
    (h : ∀ p ∈ e.properties, IsApplicationKey p.1) :
    (KeyMap.ofList (propertyPairs e)).filter (fun pair => !isSystemKey pair.1) =
      e.properties.filter fun p => !Text.startsWith "iothub-" p.1 := by
  refine ((KeyMap.sorted_ofList _).filter _).ext (sorted.filter _) fun key => ?_
  rw [KeyMap.find?_filter (fun key => !isSystemKey key),
    KeyMap.find?_filter (fun key => !Text.startsWith "iothub-" key), find?_propertyPairs sorted]
  obtain ⟨hmessage, hcorrelation, -⟩ := isSystemKey_idKeys
  cases hsystem : isSystemKey key with
  | true =>
    cases hiothub : Text.startsWith "iothub-" key with
    | true => rfl
    | false =>
      have hdollar : Text.startsWith "$." key = true := by
        simpa [isSystemKey, hiothub] using hsystem
      simpa using (find?_eq_none_of_dollar h hdollar).symm
  | false =>
    have hiothub : Text.startsWith "iothub-" key = false := by
      simp only [isSystemKey, Bool.or_eq_false_iff] at hsystem
      exact hsystem.2
    have hmid : messageIdKey ≠ key := by
      rintro rfl
      cases hmessage.symm.trans hsystem
    have hcid : correlationIdKey ≠ key := by
      rintro rfl
      cases hcorrelation.symm.trans hsystem
    simp [hiothub, hmid, hcid]

/-- An event that is sent with valid options and comes in again: it has its payload, its ids, no
destination, and every property but those that the hub keeps for itself. -/
theorem route_encodeProperties (deviceId : String) (payload : Bytes) {o : SendOptions}
    (sorted : o.properties.Sorted) (valid : o.validate = .ok ()) :
    ∃ e, o.toEvent payload = .ok e ∧ e.payload = payload ∧
      route deviceId (deviceboundPrefix deviceId ++ encodeProperties e) payload =
        .cloudToDevice {
          payload
          messageId := e.messageId
          correlationId := e.correlationId
          destination := none
          properties := e.properties.filter fun p => !Text.startsWith "iothub-" p.1 } := by
  have happlication := o.isApplicationKey_of_validate valid
  refine ⟨_, by rw [SendOptions.toEvent, valid]; rfl, rfl, ?_⟩
  set e : Event := {
    payload, messageId := o.messageId, correlationId := o.correlationId
    properties := o.properties, qos := o.qos }
  obtain ⟨hmc, hmd, hcd⟩ := idKeys_ne
  have hmid : (KeyMap.ofList (propertyPairs e)).find? messageIdKey = e.messageId := by
    rw [find?_propertyPairs sorted, find?_eq_none_of_dollar happlication (by decide)]
    simp [hmc.symm]
  have hcid : (KeyMap.ofList (propertyPairs e)).find? correlationIdKey = e.correlationId := by
    rw [find?_propertyPairs sorted, find?_eq_none_of_dollar happlication (by decide)]
    simp [hmc]
  have hto : (KeyMap.ofList (propertyPairs e)).find? destinationKey = none := by
    rw [find?_propertyPairs sorted, find?_eq_none_of_dollar happlication (by decide)]
    simp [hmd, hcd]
  have hread : parseQuery (encodeProperties e) = KeyMap.ofList (propertyPairs e) :=
    parseQuery_encodePairs (propertyPairs e)
  rw [route, Text.after?_append]
  simp only [decodeEvent, hread]
  rw [foldl_addProperty (KeyMap.sorted_ofList _) _ (by simp), hmid, hcid, hto,
    filter_propertyPairs sorted happlication]
  simp

/-- Separators and percent signs in keys and values, and a property that the hub drops. -/
theorem route_encodeProperties_of_separators :
    let o : SendOptions :=
      { messageId := some "m&$.cid=1"
        properties := [("a=b", "&c="), ("iothub-x", ""), ("z", "%41")] }
    o.properties.Sorted ∧ o.validate = .ok () ∧
    ∃ e, o.toEvent [0x68, 0x69] = .ok e ∧ e.payload = [0x68, 0x69] ∧
      route "d" (deviceboundPrefix "d" ++ encodeProperties e) [0x68, 0x69] =
        .cloudToDevice {
          payload := [0x68, 0x69]
          messageId := e.messageId
          correlationId := e.correlationId
          destination := none
          properties := e.properties.filter fun p => !Text.startsWith "iothub-" p.1 } := by
  intro o
  have hsorted : o.properties.Sorted := by simp only [o, KeyMap.Sorted]; decide
  have hvalid : o.validate = .ok () := by rfl
  exact ⟨hsorted, hvalid, route_encodeProperties "d" [0x68, 0x69] hsorted hvalid⟩

end Topic
end DeviceHub
