import DeviceHub.Proofs.InboundTopic

/-!
Answers to method calls and the request ids they carry.  `route_publish` decodes the last `$rid`
parameter of a call, and `method_response` puts the id into the topic of the answer as it is; so the
answer carries the text of the call exactly if decoding leaves that text alone.
-/
namespace DeviceHub

namespace Text

/-! ### What decoding leaves alone -/

def BeginsHex (chars : List Char) : Prop :=
  ∃ high low rest, chars = high :: low :: rest ∧
    (hexValue? high.toNat).isSome ∧ (hexValue? low.toNat).isSome

/-- Somewhere in a text two hex digits follow a percent sign. -/
def HasEscape (chars : List Char) : Prop :=
  ∃ before rest, chars = before ++ '%' :: rest ∧ BeginsHex rest

lemma hasEscape_cons {c : Char} {chars : List Char} :
    HasEscape (c :: chars) ↔ c = '%' ∧ BeginsHex chars ∨ HasEscape chars := by
  constructor
  · rintro ⟨before, rest, heq, hrest⟩
    cases before with
    | nil =>
      cases heq
      exact .inl ⟨rfl, hrest⟩
    | cons d before =>
      cases heq
      exact .inr ⟨before, rest, rfl, hrest⟩
  · rintro (⟨rfl, hrest⟩ | ⟨before, rest, rfl, hrest⟩)
    · exact ⟨[], chars, rfl, hrest⟩
    · exact ⟨c :: before, rest, rfl, hrest⟩

lemma length_percentDecodeBytes_le (bytes : Bytes) :
    (percentDecodeBytes bytes).length ≤ bytes.length := by
  fun_induction percentDecodeBytes bytes with
  | case1 => exact Nat.le_refl _
  | case2 byte hbyte high low rest h l hhigh hlow ih =>
    simp only [List.length_cons]
    omega
  | case3 byte hbyte high low rest hdigits ih => exact Nat.succ_le_succ ih
  | case4 byte rest hbyte hshort ih => exact Nat.succ_le_succ ih
  | case5 byte rest hbyte ih => exact Nat.succ_le_succ ih

lemma percentDecodeBytes_percent {rest : Bytes}
    (h : ∀ high low bytes, rest = high :: low :: bytes →
      ¬ ((hexValue? high.toNat).isSome ∧ (hexValue? low.toNat).isSome)) :
    percentDecodeBytes (0x25 :: rest) = 0x25 :: percentDecodeBytes rest := by
  have hbyte : (0x25 : UInt8).toNat = 0x25 := rfl
  rw [percentDecodeBytes.eq_def]
  simp only [hbyte, if_true]
  split
  next high low bytes =>
    split
    next hhigh hlow =>
      exact absurd ⟨Option.isSome_of_eq_some hhigh, Option.isSome_of_eq_some hlow⟩ (h _ _ _ rfl)
    next => rfl
  next => rfl

/-- A byte of seven bits at the head is a character at the head. -/
lemma exists_cons_of_flatMap {chars : List Char} {byte : UInt8} {bytes : Bytes}
    (h : chars.flatMap String.utf8EncodeChar = byte :: bytes) (hlt : byte.toNat < 0x80) :
    ∃ c rest, chars = c :: rest ∧ c.toNat = byte.toNat ∧
      rest.flatMap String.utf8EncodeChar = bytes := by
  cases chars with
  | nil => cases h
  | cons c rest =>
    rw [List.flatMap_cons] at h
    have hmem : byte ∈ String.utf8EncodeChar c := by
      cases hc : String.utf8EncodeChar c with
      | nil => exact absurd hc String.utf8EncodeChar_ne_nil
      | cons first others =>
        rw [hc] at h
        cases h
        exact List.mem_cons_self
    obtain ⟨hbytes, htoNat⟩ := eq_of_mem_utf8EncodeChar hmem hlt
    rw [hbytes] at h
    cases h
    exact ⟨c, rest, rfl, htoNat, rfl⟩

/-- An escape does not stay: its three bytes are read as one. -/
lemma BeginsHex.percentDecodeBytes_ne {chars : List Char} (h : BeginsHex chars) :
    percentDecodeBytes (0x25 :: chars.flatMap String.utf8EncodeChar) ≠
      0x25 :: chars.flatMap String.utf8EncodeChar := by
  intro heq
  obtain ⟨high, low, rest, rfl, hhigh, hlow⟩ := h
  obtain ⟨h, hh⟩ := Option.isSome_iff_exists.1 hhigh
  obtain ⟨l, hl⟩ := Option.isSome_iff_exists.1 hlow
  have hhighLt := hexValue?_lt hh
  have hlowLt := hexValue?_lt hl
  rw [← toNat_ofNat_of_lt hhighLt] at hh
  rw [← toNat_ofNat_of_lt hlowLt] at hl
  rw [List.flatMap_cons, List.flatMap_cons, utf8EncodeChar_of_lt hhighLt,
    utf8EncodeChar_of_lt hlowLt, List.singleton_append, List.singleton_append,
    percentDecodeBytes_escape hh hl] at heq
  have hlength := congrArg List.length heq
  have hle := length_percentDecodeBytes_le (rest.flatMap String.utf8EncodeChar)
  simp only [List.length_cons] at hlength
  omega

lemma percentDecodeBytes_of_not_beginsHex {chars : List Char} (h : ¬ BeginsHex chars) :
    percentDecodeBytes (0x25 :: chars.flatMap String.utf8EncodeChar) =
      0x25 :: percentDecodeBytes (chars.flatMap String.utf8EncodeChar) := by
  apply percentDecodeBytes_percent
  rintro high low bytes hbytes ⟨hhigh, hlow⟩
  obtain ⟨h', hh⟩ := Option.isSome_iff_exists.1 hhigh
  obtain ⟨l, hl⟩ := Option.isSome_iff_exists.1 hlow
  obtain ⟨c, rest, rfl, hc, hrest⟩ := exists_cons_of_flatMap hbytes (hexValue?_lt hh)
  obtain ⟨d, rest, rfl, hd, -⟩ := exists_cons_of_flatMap hrest (hexValue?_lt hl)
  exact h ⟨c, d, rest, rfl, hc ▸ hhigh, hd ▸ hlow⟩

/-- Decoding leaves the bytes of a text exactly if there is no escape in it. -/
theorem percentDecodeBytes_eq_self_iff (chars : List Char) :
    percentDecodeBytes (chars.flatMap String.utf8EncodeChar) = chars.flatMap String.utf8EncodeChar ↔
      ¬ HasEscape chars := by
  induction chars with
  | nil =>
    rw [List.flatMap_nil, percentDecodeBytes]
    simp [HasEscape]
  | cons c chars ih =>
    rw [List.flatMap_cons, hasEscape_cons]
    by_cases hc : c = '%'
    · subst hc
      have hpercent : String.utf8EncodeChar '%' = [0x25] := by decide
      rw [hpercent, List.cons_append, List.nil_append]
      by_cases hhex : BeginsHex chars
      · exact ⟨fun heq => absurd heq hhex.percentDecodeBytes_ne,
          fun hnone => absurd (.inl ⟨rfl, hhex⟩) hnone⟩
      · rw [percentDecodeBytes_of_not_beginsHex hhex, List.cons.injEq, ih]
        simp [hhex]
    · rw [percentDecodeBytes_utf8EncodeChar hc, List.append_cancel_left_eq, ih]
      simp [hc]

lemma decode?_eq_some_iff {bytes : Bytes} {s : String} :
    decode? bytes = some s ↔ encode s = bytes := by
  constructor
  · intro h
    obtain ⟨chars, hchars, rfl⟩ := Option.map_eq_some_iff.1 h
    have hsome : bytes.toByteArray.utf8Decode?.isSome = true := Option.isSome_of_eq_some hchars
    have hencode := @ByteArray.utf8Encode_get_utf8Decode? _ hsome
    simp only [hchars, Option.get_some] at hencode
    rw [encode_ofList]
    exact List.toByteArray_inj.1 hencode
  · rintro rfl
    exact decode?_encode s

lemma percentDecode_eq_self_iff {s : String} :
    percentDecode s = s ↔
      ¬ (HasEscape s.toList ∧ ∃ text, encode text = percentDecodeBytes (encode s)) := by
  have hself : percentDecodeBytes (encode s) = encode s ↔ ¬ HasEscape s.toList :=
    percentDecodeBytes_eq_self_iff s.toList
  rw [percentDecode]
  cases hdecode : decode? (percentDecodeBytes (encode s)) with
  | none =>
    have hnone : ¬ ∃ text, encode text = percentDecodeBytes (encode s) := by
      rintro ⟨text, htext⟩
      rw [decode?_eq_some_iff.2 htext] at hdecode
      cases hdecode
    simp [hnone]
  | some text =>
    have htext := decode?_eq_some_iff.1 hdecode
    have hexists : ∃ text, encode text = percentDecodeBytes (encode s) := ⟨text, htext⟩
    rw [and_iff_left hexists, ← hself, Option.getD_some, ← htext]
    refine ⟨congrArg encode, fun heq => ?_⟩
    have hread := congrArg decode? heq
    rwa [decode?_encode, decode?_encode, Option.some.injEq] at hread

lemma joinWith_splitBy (separator : Char) (chars : List Char) :
    joinWith [separator] (splitBy (· == separator) chars) = chars ∧
      ∀ piece ∈ splitBy (· == separator) chars, separator ∉ piece := by
  induction chars with
  | nil => simp [splitBy, joinWith]
  | cons c chars ih =>
    obtain ⟨hjoin, hpieces⟩ := ih
    obtain ⟨piece, pieces, hsplit⟩ := exists_splitBy (· == separator) chars
    rw [hsplit] at hjoin hpieces
    rw [splitBy, hsplit]
    split
    next hc =>
      obtain rfl := beq_iff_eq.1 hc
      refine ⟨?_, List.forall_mem_cons.2 ⟨List.not_mem_nil, hpieces⟩⟩
      rw [joinWith, hjoin]
      · rfl
      · exact List.cons_ne_nil _ _
    next hc =>
      obtain ⟨hpiece, hrest⟩ := List.forall_mem_cons.1 hpieces
      have hne : separator ≠ c := fun heq => hc (beq_iff_eq.2 heq.symm)
      refine ⟨?_, List.forall_mem_cons.2 ⟨by simp [hne, hpiece], hrest⟩⟩
      cases pieces with
      | nil => exact congrArg (c :: ·) hjoin
      | cons next pieces => exact congrArg (c :: ·) hjoin

lemma after?_eq_some_iff {start s rest : String} :
    after? start s = some rest ↔ s = start ++ rest := by
  constructor
  · intro h
    unfold after? at h
    split at h
    next hstart =>
      cases h
      obtain ⟨tail, htail⟩ := List.isPrefixOf_iff_prefix.1 hstart
      apply String.toList_injective
      rw [String.toList_append, String.toList_ofList, ← htail, List.drop_left]
    next => cases h
  · rintro rfl
    exact after?_append start rest

end Text

namespace Topic

/-! ### The text of a request id -/

/-- A text that stands as the value of the last request id in the topic of a method call. -/
def RequestIdText (topic : String) (written : List Char) : Prop :=
  ∃ (path : List Char) (before after : List (List Char)) (parameter name : List Char),
    topic = "$iothub/methods/POST/" ++
      String.ofList (path ++ '?' :: (query (before ++ parameter :: after)).toList) ∧
    '?' ∉ path ∧ (∀ other ∈ before ++ parameter :: after, '&' ∉ other) ∧
    Parameter parameter name written ∧ Text.percentDecode (String.ofList name) = "$rid" ∧
    ∀ other ∈ after, ∀ name value, Parameter other name value →
      Text.percentDecode (String.ofList name) ≠ "$rid"

def rawPair (parameter : List Char) : String × List Char :=
  ((decodePair (String.ofList parameter)).1,
    ((Text.cutAt? (· == '=') parameter).map Prod.snd).getD [])

lemma Parameter.rawPair_eq {written name value : List Char} (h : Parameter written name value) :
    rawPair written = (Text.percentDecode (String.ofList name), value) := by
  rw [rawPair, h.decodePair_eq]
  cases h with
  | pair hname =>
    rw [Text.cutAt?_append (Text.forall_beq_eq_false_iff.2 hname) (beq_self_eq_true '=')]
    rfl
  | bare hname =>
    rw [Text.cutAt?_eq_none_iff.2 (Text.forall_beq_eq_false_iff.2 hname)]
    rfl

lemma decodePair_eq_rawPair (parameter : List Char) :
    decodePair (String.ofList parameter) =
      ((rawPair parameter).1, Text.percentDecode (String.ofList (rawPair parameter).2)) := by
  obtain ⟨name, value, h⟩ := exists_parameter parameter
  rw [h.decodePair_eq, h.rawPair_eq]

lemma rawPair_nil : (rawPair []).1 = "" := by
  have hempty := Parameter.rawPair_eq (.bare List.not_mem_nil)
  rw [hempty]
  exact Text.percentDecode_of_plain List.not_mem_nil List.not_mem_nil

/-- What a query holds under a name is the decoded value of the last parameter of that name. -/
lemma find?_rawPairs {key : String} (hkey : key ≠ "") (parameters : List (List Char)) :
    (KeyMap.ofList (((parameters.map String.ofList).filter (· ≠ "")).map decodePair)).find? key =
      ((KeyMap.ofList (parameters.map rawPair)).find? key).map fun written =>
        Text.percentDecode (String.ofList written) := by
  induction parameters using List.reverseRecOn with
  | nil => rfl
  | append_singleton parameters parameter ih =>
    rw [List.map_append, List.map_append, List.map_singleton, List.map_singleton,
      List.filter_append, List.map_append, KeyMap.ofList_concat]
    by_cases hparameter : parameter = []
    · -- between two separators there is no parameter at all
      subst hparameter
      rw [rawPair_nil, KeyMap.find?_insert_of_ne hkey, ← ih]
      simp
    · have hnonempty : String.ofList parameter ≠ "" := fun heq =>
        hparameter (String.ofList_injective heq)
      have hkept : [String.ofList parameter].filter (· ≠ "") = [String.ofList parameter] := by
        simp [hnonempty]
      rw [hkept, List.map_singleton, KeyMap.ofList_concat, decodePair_eq_rawPair]
      by_cases hname : (rawPair parameter).1 = key
      · subst hname
        rw [KeyMap.find?_insert_self, KeyMap.find?_insert_self, Option.map_some]
      · have hkey' : key ≠ (rawPair parameter).1 := Ne.symm hname
        rw [KeyMap.find?_insert_of_ne hkey', KeyMap.find?_insert_of_ne hkey', ih]

lemma find?_rawPairs_eq_some_iff {parameters : List (List Char)} {key : String}
    {written : List Char} :
    (KeyMap.ofList (parameters.map rawPair)).find? key = some written ↔
      ∃ before parameter after name, parameters = before ++ parameter :: after ∧
        Parameter parameter name written ∧ Text.percentDecode (String.ofList name) = key ∧
        ∀ other ∈ after, ∀ name value, Parameter other name value →
          Text.percentDecode (String.ofList name) ≠ key := by
  rw [KeyMap.find?_ofList_eq_some_iff]
  constructor
  · rintro ⟨before, after, hsplit, hafter⟩
    obtain ⟨before, rest, rfl, -, hrest⟩ := List.map_eq_append_iff.1 hsplit
    obtain ⟨parameter, after, rfl, hparameter, rfl⟩ := List.map_eq_cons_iff.1 hrest
    obtain ⟨name, value, h⟩ := exists_parameter parameter
    rw [h.rawPair_eq] at hparameter
    obtain ⟨hname, rfl⟩ := Prod.mk.inj hparameter
    refine ⟨before, parameter, after, name, rfl, h, hname, ?_⟩
    intro other hother name' value' hother'
    have hne := hafter _ (List.mem_map_of_mem hother)
    rwa [hother'.rawPair_eq] at hne
  · rintro ⟨before, parameter, after, name, rfl, h, hname, hafter⟩
    refine ⟨before.map rawPair, after.map rawPair, ?_, ?_⟩
    · rw [List.map_append, List.map_cons, h.rawPair_eq, hname]
    · intro entry hentry
      obtain ⟨other, hother, rfl⟩ := List.mem_map.1 hentry
      obtain ⟨name', value', hother'⟩ := exists_parameter other
      rw [hother'.rawPair_eq]
      exact hafter other hother name' value' hother'

def requestIdText? (topic : String) : Option (List Char) :=
  (Text.after? methodPrefix topic).bind fun rest =>
    (Text.cutAt? (· == '?') rest.toList).bind fun cut =>
      (KeyMap.ofList ((Text.splitBy (· == '&') cut.2).map rawPair)).find? "$rid"

lemma query_splitBy (chars : List Char) :
    query (Text.splitBy (· == '&') chars) = String.ofList chars := by
  rw [query, (Text.joinWith_splitBy '&' chars).1]

/-- The function finds the text that the relation describes, so there is one at most. -/
theorem requestIdText?_eq_some_iff {topic : String} {written : List Char} :
    requestIdText? topic = some written ↔ RequestIdText topic written := by
  constructor
  · intro h
    obtain ⟨rest, hrest, h⟩ := Option.bind_eq_some_iff.1 h
    obtain ⟨cut, hcut, h⟩ := Option.bind_eq_some_iff.1 h
    obtain ⟨hpath, separator, hseparator, hchars⟩ := Text.cutAt?_eq_some hcut
    obtain ⟨before, parameter, after, name, hsplit, hparameter, hname, hafter⟩ :=
      find?_rawPairs_eq_some_iff.1 h
    refine ⟨cut.1, before, after, parameter, name, ?_, Text.forall_beq_eq_false_iff.1 hpath, ?_,
      hparameter, hname, hafter⟩
    · rw [← hsplit, query_splitBy, String.toList_ofList, ← beq_iff_eq.1 hseparator, ← hchars,
        String.ofList_toList]
      exact Text.after?_eq_some_iff.1 hrest
    · rw [← hsplit]
      exact (Text.joinWith_splitBy '&' cut.2).2
  · rintro ⟨path, before, after, parameter, name, rfl, hpath, hplain, hparameter, hname, hafter⟩
    have hrest := Text.after?_append methodPrefix
      (String.ofList (path ++ '?' :: (query (before ++ parameter :: after)).toList))
    rw [methodPrefix] at hrest
    rw [requestIdText?, methodPrefix, hrest, Option.bind_some, String.toList_ofList,
      Text.cutAt?_append (Text.forall_beq_eq_false_iff.2 hpath) (beq_self_eq_true '?'),
      Option.bind_some]
    dsimp only
    rw [splitBy_query (by simp) hplain]
    exact find?_rawPairs_eq_some_iff.2
      ⟨before, parameter, after, name, rfl, hparameter, hname, hafter⟩

lemma parseQuery_ofList (chars : List Char) :
    (parseQuery (String.ofList chars)).find? requestIdKey =
      ((KeyMap.ofList ((Text.splitBy (· == '&') chars).map rawPair)).find? requestIdKey).map
        fun written => Text.percentDecode (String.ofList written) := by
  rw [← find?_rawPairs (by decide), ← parseQuery_query (Text.joinWith_splitBy '&' chars).2,
    query_splitBy]

lemma routeMethod_eq_methodCall {rest method id : String} {payload body : Bytes}
    (h : routeMethod rest payload = .methodCall method id body) :
    ∃ cut written, Text.cutAt? (· == '?') rest.toList = some cut ∧
      (KeyMap.ofList ((Text.splitBy (· == '&') cut.2).map rawPair)).find? requestIdKey =
        some written ∧
      id = Text.percentDecode (String.ofList written) := by
  cases hcut : Text.cutAt? (· == '?') rest.toList with
  | none =>
    have hempty : (parseQuery "").find? requestIdKey = none := rfl
    simp only [routeMethod, splitQuery, Text.cutOnce?, hcut, Option.map_none, Option.getD_none,
      hempty] at h
    cases h
  | some cut =>
    simp only [routeMethod, splitQuery, Text.cutOnce?, hcut, Option.map_some, Option.getD_some,
      parseQuery_ofList] at h
    cases hwritten : (KeyMap.ofList ((Text.splitBy (· == '&') cut.2).map rawPair)).find?
        requestIdKey with
    | none =>
      simp only [hwritten, Option.map_none] at h
      cases h
    | some written =>
      simp only [hwritten, Option.map_some] at h
      split at h
      next => cases h
      next =>
        cases h
        exact ⟨cut, written, rfl, hwritten, rfl⟩

/-- The id of what the router takes for a method call is the decoded text of the topic. -/
lemma route_eq_methodCall {deviceId topic method id : String} {payload body : Bytes}
    (h : route deviceId topic payload = .methodCall method id body) :
    ∃ written, requestIdText? topic = some written ∧
      id = Text.percentDecode (String.ofList written) := by
  unfold route at h
  split at h
  next => cases h
  next =>
    split at h
    next rest hrest =>
      obtain ⟨cut, written, hcut, hwritten, hid⟩ := routeMethod_eq_methodCall h
      refine ⟨written, ?_, hid⟩
      rw [requestIdText?, hrest, Option.bind_some, hcut, Option.bind_some]
      exact hwritten
    next =>
      split at h
      next rest hrest =>
        unfold routeTwinResponse at h
        dsimp only at h
        split at h <;> cases h
      next =>
        split at h <;> cases h

lemma methodResponse_eq_iff {status : Int} {id written : String} :
    methodResponse status id = "$iothub/methods/res/" ++ toString status ++ "/?$rid=" ++ written ↔
      id = written :=
  String.append_right_inj ("$iothub/methods/res/" ++ toString status ++ "/?$rid=")

/-- The answer to a method call carries, under every status, the text that stands as the value of
the last request id in the topic of the call, unless that text has an escape in it and is UTF-8
without its escapes: then it is decoded and does not come back as it was. -/
theorem response_echoes_iff {deviceId topic method id : String} {payload body : Bytes}
    (h : route deviceId topic payload = .methodCall method id body) :
    ∃ written : List Char, RequestIdText topic written ∧
      (∀ other, RequestIdText topic other → other = written) ∧
      id = Text.percentDecode (String.ofList written) ∧
      ∀ status : Int,
        methodResponse status id =
            "$iothub/methods/res/" ++ toString status ++ "/?$rid=" ++ String.ofList written ↔
          ¬ (Text.HasEscape written ∧ ∃ text, Text.encode text =
            Text.percentDecodeBytes (Text.encode (String.ofList written))) := by
  obtain ⟨written, hwritten, rfl⟩ := route_eq_methodCall h
  refine ⟨written, requestIdText?_eq_some_iff.1 hwritten, ?_, rfl, ?_⟩
  · intro other hother
    have hsame := (requestIdText?_eq_some_iff.2 hother).symm.trans hwritten
    exact Option.some.inj hsame
  · intro status
    rw [methodResponse_eq_iff, Text.percentDecode_eq_self_iff, String.toList_ofList]

/-- Of two request ids the last one comes back, with a percent sign that begins no escape. -/
theorem response_echoes_iff_of_percent :
    route "d" "$iothub/methods/POST/m/?$rid=1&x&%24rid=5%" [] = .methodCall "m" "5%" [] ∧
      RequestIdText "$iothub/methods/POST/m/?$rid=1&x&%24rid=5%" ['5', '%'] ∧
      methodResponse 200 "5%" =
        "$iothub/methods/res/" ++ toString (200 : Int) ++ "/?$rid=" ++
          String.ofList ['5', '%'] := by
  have hroute : route "d" "$iothub/methods/POST/m/?$rid=1&x&%24rid=5%" [] =
      .methodCall "m" "5%" [] := by decide +kernel
  have htext : RequestIdText "$iothub/methods/POST/m/?$rid=1&x&%24rid=5%" ['5', '%'] :=
    requestIdText?_eq_some_iff.1 (by decide +kernel)
  have hsame : Text.percentDecode (String.ofList ['5', '%']) = String.ofList ['5', '%'] := by
    decide +kernel
  have hkept := Text.percentDecode_eq_self_iff.1 hsame
  rw [String.toList_ofList] at hkept
  obtain ⟨written, -, honly, -, hecho⟩ := response_echoes_iff hroute
  obtain rfl := honly _ htext
  exact ⟨hroute, htext, (hecho 200).2 hkept⟩

/-- A separator in a request id has to be written as an escape, and the answer carries it as it
is. -/
theorem separator_not_echoed :
    route "d" "$iothub/methods/POST/m/?$rid=a%26b" [] = .methodCall "m" "a&b" [] ∧
      RequestIdText "$iothub/methods/POST/m/?$rid=a%26b" ['a', '%', '2', '6', 'b'] ∧
      methodResponse 200 "a&b" ≠ "$iothub/methods/res/" ++ toString (200 : Int) ++ "/?$rid=" ++
        String.ofList ['a', '%', '2', '6', 'b'] :=
  ⟨by decide +kernel, requestIdText?_eq_some_iff.1 (by decide +kernel), by decide⟩

end Topic
end DeviceHub
