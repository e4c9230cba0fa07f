import DeviceHub.Proofs.EventTopic
import DeviceHub.Proofs.IntegerText
import Mathlib.Algebra.Group.Int.Defs

/-!
Topics of the hub and what `route_publish` makes of them.  The parameters of a query may stand in
any order and among others, and a value may be percent-encoded in every way that hides the
separator.
-/
namespace DeviceHub

namespace Text

/-- A separator that nothing in a text is taken for does not stand in it. -/
lemma forall_beq_eq_false_iff {separator : Char} {chars : List Char} :
    (∀ c ∈ chars, (c == separator) = false) ↔ separator ∉ chars := by
  simp only [beq_eq_false_iff_ne]
  exact ⟨fun h hmem => h separator hmem rfl, fun h c hc heq => h (heq ▸ hc)⟩

end Text

namespace Topic

/-! ### Parameters -/

/-- A parameter of a query as it is written, with its name and its value; without an equals sign it
is a name without a value. -/
inductive Parameter : List Char → List Char → List Char → Prop
  | pair {name value : List Char} (h : '=' ∉ name) : Parameter (name ++ '=' :: value) name value
  | bare {name : List Char} (h : '=' ∉ name) : Parameter name name []

lemma Parameter.decodePair_eq {written name value : List Char} (h : Parameter written name value) :
    decodePair (String.ofList written) =
      (Text.percentDecode (String.ofList name), Text.percentDecode (String.ofList value)) := by
  cases h with
  | pair hname =>
    rw [decodePair, Text.cutOnce?, String.toList_ofList,
      Text.cutAt?_append (Text.forall_beq_eq_false_iff.2 hname) (beq_self_eq_true '=')]
    rfl
  | bare hname =>
    rw [decodePair, Text.cutOnce?, String.toList_ofList,
      Text.cutAt?_eq_none_iff.2 (Text.forall_beq_eq_false_iff.2 hname)]
    rfl

lemma exists_parameter (written : List Char) : ∃ name value, Parameter written name value := by
  cases hcut : Text.cutAt? (· == '=') written with
  | none =>
    have hname := Text.forall_beq_eq_false_iff.1 (Text.cutAt?_eq_none_iff.1 hcut)
    exact ⟨written, [], .bare hname⟩
  | some cut =>
    obtain ⟨hname, separator, hseparator, rfl⟩ := Text.cutAt?_eq_some hcut
    rw [beq_iff_eq.1 hseparator]
    exact ⟨_, _, .pair (Text.forall_beq_eq_false_iff.1 hname)⟩

def query (parameters : List (List Char)) : String :=
  String.ofList (Text.joinWith ['&'] parameters)

/-- Parameters under other names. -/
def Others (names : List String) (parameters : List (List Char)) : Prop :=
  ∀ written ∈ parameters, '&' ∉ written ∧
    ∀ name value, Parameter written name value → Text.percentDecode (String.ofList name) ∉ names

/-- A query falls apart into its parameters. -/
lemma splitBy_query {parameters : List (List Char)} (hne : parameters ≠ [])
    (h : ∀ written ∈ parameters, '&' ∉ written) :
    Text.splitBy (· == '&') (query parameters).toList = parameters := by
  rw [query, String.toList_ofList]
  exact Text.splitBy_joinWith hne fun written hwritten =>
    Text.forall_beq_eq_false_iff.2 (h written hwritten)

lemma parseQuery_query {parameters : List (List Char)} (h : ∀ written ∈ parameters, '&' ∉ written) :
    parseQuery (query parameters) =
      KeyMap.ofList (((parameters.map String.ofList).filter (· ≠ "")).map decodePair) := by
  cases parameters with
  | nil => rfl
  | cons first rest =>
    rw [parseQuery, Text.splitOnChar, splitBy_query (List.cons_ne_nil _ _) h]

/-- One parameter stands under its name if no other one has that name, wherever it stands. -/
lemma find?_parseQuery {parameters others : List (List Char)} {written name value : List Char}
    {key : String} (hperm : parameters.Perm (written :: others))
    (hwritten : Parameter written name value)
    (hname : Text.percentDecode (String.ofList name) = key) (hne : written ≠ [])
    (hplain : ∀ other ∈ written :: others, '&' ∉ other)
    (hothers : ∀ other ∈ others, ∀ name value, Parameter other name value →
      Text.percentDecode (String.ofList name) ≠ key) :
    (parseQuery (query parameters)).find? key =
      some (Text.percentDecode (String.ofList value)) := by
  rw [parseQuery_query fun other hother => hplain other (hperm.mem_iff.1 hother)]
  obtain ⟨before, after, rfl⟩ := List.append_of_mem (hperm.mem_iff.2 List.mem_cons_self)
  have hrest : (before ++ after).Perm others := (List.perm_middle.symm.trans hperm).cons_inv
  have hread := hwritten.decodePair_eq
  rw [hname] at hread
  apply KeyMap.find?_ofList_eq_some_iff.2
  refine ⟨((before.map String.ofList).filter (· ≠ "")).map decodePair,
    ((after.map String.ofList).filter (· ≠ "")).map decodePair, ?_, ?_⟩
  · have hnonempty : String.ofList written ≠ "" := fun heq => hne (String.ofList_injective heq)
    simp [hnonempty, hread]
  · intro entry hentry
    obtain ⟨text, htext, rfl⟩ := List.mem_map.1 hentry
    obtain ⟨other, hother, rfl⟩ := List.mem_map.1 (List.mem_filter.1 htext).1
    obtain ⟨name, value, hparameter⟩ := exists_parameter other
    rw [hparameter.decodePair_eq]
    exact hothers other (hrest.mem_iff.1 (List.mem_append_right _ hother)) name value hparameter

/-! ### Paths -/

lemma trimSlashes_append {path : String} (h : path.toList.getLast? ≠ some '/') :
    trimSlashes (path ++ "/") = path := by
  have hchars : (path ++ "/").toList.reverse = '/' :: path.toList.reverse := by
    simp [String.toList_append]
  have hkept : path.toList.reverse.dropWhile (· == '/') = path.toList.reverse := by
    rw [List.getLast?_eq_head?_reverse] at h
    cases hreverse : path.toList.reverse with
    | nil => rfl
    | cons c chars =>
      rw [hreverse] at h
      have hc : (c == '/') = false := beq_eq_false_iff_ne.2 fun heq => h (congrArg some heq)
      simp [hc]
  simp only [trimSlashes, hchars, List.dropWhile_cons, beq_self_eq_true, if_true, hkept,
    List.reverse_reverse, String.ofList_toList]

lemma splitQuery_append {path : String} (hmark : '?' ∉ path.toList)
    (hslash : path.toList.getLast? ≠ some '/') (rest : String) :
    splitQuery (path ++ "/?" ++ rest) = (path, rest) := by
  have hpath : '?' ∉ (path ++ "/").toList := by
    rw [String.toList_append]
    simp [hmark]
  have hchars : (path ++ "/?" ++ rest).toList = (path ++ "/").toList ++ '?' :: rest.toList := by
    simp [String.toList_append]
  rw [splitQuery, Text.cutOnce?, hchars,
    Text.cutAt?_append (Text.forall_beq_eq_false_iff.2 hpath) (beq_self_eq_true '?')]
  simp only [Option.map_some, Option.getD_some, String.ofList_toList, trimSlashes_append hslash]

/-- What begins in another way does not begin with a text. -/
lemma after?_eq_none {start s : String} (h : Text.startsWith start s = false) :
    Text.after? start s = none := by
  rw [Text.after?, h]
  rfl

lemma after?_devicebound (deviceId rest : String) :
    Text.after? (deviceboundPrefix deviceId) ("$iothub/" ++ rest) = none := by
  apply after?_eq_none
  rw [deviceboundPrefix, Text.startsWith, String.toList_append, String.toList_append,
    String.toList_append]
  rfl

lemma route_method (deviceId rest : String) (payload : Bytes) :
    route deviceId (methodPrefix ++ rest) payload = routeMethod rest payload := by
  have hdevicebound : Text.after? (deviceboundPrefix deviceId) (methodPrefix ++ rest) = none := by
    have htopic : methodPrefix ++ rest = "$iothub/" ++ ("methods/POST/" ++ rest) := by
      rw [← String.append_assoc]
      rfl
    rw [htopic, after?_devicebound]
  rw [route, hdevicebound, Text.after?_append]

lemma route_twinResponse (deviceId rest : String) (payload : Bytes) :
    route deviceId (twinResponsePrefix ++ rest) payload = routeTwinResponse rest payload := by
  have hdevicebound :
      Text.after? (deviceboundPrefix deviceId) (twinResponsePrefix ++ rest) = none := by
    have htopic : twinResponsePrefix ++ rest = "$iothub/" ++ ("twin/res/" ++ rest) := by
      rw [← String.append_assoc]
      rfl
    rw [htopic, after?_devicebound]
  have hmethod : Text.after? methodPrefix (twinResponsePrefix ++ rest) = none := by
    apply after?_eq_none
    rw [Text.startsWith, String.toList_append]
    rfl
  rw [route, hdevicebound]
  simp only [hmethod, Text.after?_append]

/-! ### Topics of calls and of responses -/

def parameter (name : String) (written : List Char) : List Char :=
  name.toList ++ '=' :: written

structure IsPlainName (name : String) : Prop where
  percent : '%' ∉ name.toList
  ampersand : '&' ∉ name.toList
  equals : '=' ∉ name.toList

lemma requestIdKey_plain : IsPlainName requestIdKey :=
  ⟨by decide, by decide, by decide⟩

lemma versionKey_plain : IsPlainName versionKey :=
  ⟨by decide, by decide, by decide⟩

lemma IsPlainName.decode {name : String} (h : IsPlainName name) : Text.percentDecode name = name :=
  Text.percentDecode_of_plain h.percent h.ampersand

lemma IsPlainName.parameter {name : String} (h : IsPlainName name) (written : List Char) :
    Parameter (parameter name written) name.toList written :=
  .pair h.equals

lemma IsPlainName.no_ampersand {name : String} (h : IsPlainName name) {written : List Char}
    (hwritten : '&' ∉ written) : '&' ∉ Topic.parameter name written := by
  intro hmem
  obtain hmem | hmem := List.mem_append.1 hmem
  · exact h.ampersand hmem
  · obtain heq | hmem := List.mem_cons.1 hmem
    · cases heq
    · exact hwritten hmem

/-- A parameter under a plain name is one under another name than any other. -/
lemma Others.cons {name : String} {names : List String} {others : List (List Char)}
    {written : List Char} (h : Others names others) (hname : IsPlainName name) (hnew : name ∉ names)
    (hwritten : '&' ∉ written) : Others names (parameter name written :: others) := by
  refine List.forall_mem_cons.2 ⟨⟨hname.no_ampersand hwritten, ?_⟩, h⟩
  intro name' value hparameter
  have hsame := hparameter.decodePair_eq.symm.trans (hname.parameter written).decodePair_eq
  rw [(Prod.mk.inj hsame).1, String.ofList_toList, hname.decode]
  exact hnew

lemma Others.mono {names names' : List String} {others : List (List Char)} (h : Others names others)
    (hle : ∀ name ∈ names', name ∈ names) : Others names' others := fun other hother =>
  ⟨(h other hother).1, fun name value hparameter hmem =>
    (h other hother).2 name value hparameter (hle _ hmem)⟩

/-- A text that is percent-encoded under a name is what a query holds under it. -/
lemma find?_parameter {name s : String} {written : List Char} {others parameters : List (List Char)}
    (hname : IsPlainName name) (hwritten : Text.PercentEncodes (Text.encode s) written)
    (hothers : Others [name] others) (hperm : parameters.Perm (parameter name written :: others)) :
    (parseQuery (query parameters)).find? name = some s := by
  have hplain : ∀ other ∈ parameter name written :: others, '&' ∉ other :=
    List.forall_mem_cons.2
      ⟨hname.no_ampersand hwritten.no_ampersand, fun other hother => (hothers other hother).1⟩
  have hdecode : Text.percentDecode (String.ofList name.toList) = name := by
    rw [String.ofList_toList, hname.decode]
  have hread : (parseQuery (query parameters)).find? name =
      some (Text.percentDecode (String.ofList written)) := by
    apply find?_parseQuery hperm (hname.parameter written) hdecode _ hplain
    · intro other hother name' value hparameter heq
      exact (hothers other hother).2 name' value hparameter (List.mem_singleton.2 heq)
    · exact List.append_ne_nil_of_right_ne_nil _ (List.cons_ne_nil _ _)
  rw [hread, Text.percentDecode_of_encodes hwritten]

lemma routeMethod_append {name id : String} (hname : name ≠ "") (hmark : '?' ∉ name.toList)
    (hslash : name.toList.getLast? ≠ some '/') {rest : String}
    (hid : (parseQuery rest).find? requestIdKey = some id) (payload : Bytes) :
    routeMethod (name ++ "/?" ++ rest) payload = .methodCall name id payload := by
  simp only [routeMethod, splitQuery_append hmark hslash, hid, if_neg hname]

lemma not_mem_toString {c : Char} (hdigit : c.isDigit = false) (hminus : c ≠ '-') (i : Int) :
    c ∉ (toString i).toList := by
  intro hmem
  obtain h | h := Text.mem_toString hmem
  · cases h.symm.trans hdigit
  · exact hminus h

lemma readInt32?_toString {i : Int} (hlow : -2 ^ 31 ≤ i) (hhigh : i < 2 ^ 31) :
    Text.readInt32? (toString i) = some i := by
  have hlow' : -Int.pow 2 31 ≤ i := hlow
  have hhigh' : i ≤ Int.pow 2 31 - 1 := Int.le_sub_one_of_lt hhigh
  rw [Text.readInt32?, Text.readIntWithin?, Text.readInt?_toString, Option.filter_some,
    if_pos (decide_eq_true ⟨hlow', hhigh'⟩)]

lemma readInt64?_toString (n : Int64) : Text.readInt64? (toString n.toInt) = some n := by
  have hlow : -Int.pow 2 63 ≤ n.toInt := n.le_toInt
  have hhigh : n.toInt ≤ Int.pow 2 63 - 1 := Int.le_sub_one_of_lt n.toInt_lt
  rw [Text.readInt64?, Text.readIntWithin?, Text.readInt?_toString, Option.filter_some,
    if_pos (decide_eq_true ⟨hlow, hhigh⟩), Option.map_some, Int64.ofInt_toInt]

lemma routeTwinResponse_append {status : Int} {id : String} {version : Int64} {rest : String}
    (hlow : -2 ^ 31 ≤ status) (hhigh : status < 2 ^ 31)
    (hid : (parseQuery rest).find? requestIdKey = some id)
    (hversion : (parseQuery rest).find? versionKey = some (toString version.toInt))
    (payload : Bytes) :
    routeTwinResponse (toString status ++ "/?" ++ rest) payload =
      .twinResponse ⟨id, status, some version, payload⟩ := by
  have hmark : '?' ∉ (toString status).toList := not_mem_toString rfl (by decide) status
  have hslash : (toString status).toList.getLast? ≠ some '/' := fun hlast =>
    not_mem_toString rfl (by decide) status (List.mem_of_getLast? hlast)
  simp only [routeTwinResponse, splitQuery_append hmark hslash, readInt32?_toString hlow hhigh, hid,
    hversion, Option.bind_some, readInt64?_toString]

lemma percentEncodes_toString (i : Int) :
    Text.PercentEncodes (Text.encode (toString i)) (toString i).toList :=
  Text.percentEncodes_self (not_mem_toString rfl (by decide) i) (not_mem_toString rfl (by decide) i)

/-- A call of a method, and a response about the twin, is told from its topic: the topic is read as
the name or the status that was written into it, the request id, and the version, whatever other
parameters stand between them and whatever order all parameters stand in. -/
theorem route_hub_topics (deviceId : String) (payload : Bytes) :
    (∀ (name id : String) (written : List Char) (others parameters : List (List Char)),
      name ≠ "" → '?' ∉ name.toList → name.toList.getLast? ≠ some '/' →
      Text.PercentEncodes (Text.encode id) written → Others ["$rid"] others →
      parameters.Perm (parameter "$rid" written :: others) →
      route deviceId ("$iothub/methods/POST/" ++ (name ++ "/?" ++ query parameters)) payload =
        .methodCall name id payload) ∧
    ∀ (status : Int) (id : String) (written : List Char) (version : Int64)
      (others parameters : List (List Char)),
      -2 ^ 31 ≤ status → status < 2 ^ 31 →
      Text.PercentEncodes (Text.encode id) written → Others ["$rid", "$version"] others →
      parameters.Perm (parameter "$rid" written ::
        parameter "$version" (toString version.toInt).toList :: others) →
      route deviceId ("$iothub/twin/res/" ++ (toString status ++ "/?" ++ query parameters))
          payload =
        .twinResponse ⟨id, status, some version, payload⟩ := by
  constructor
  · intro name id written others parameters hname hmark hslash hwritten hothers hperm
    have hid := find?_parameter requestIdKey_plain hwritten hothers hperm
    exact (route_method deviceId _ payload).trans
      (routeMethod_append hname hmark hslash hid payload)
  · intro status id written version others parameters hlow hhigh hwritten hothers hperm
    have hversion := percentEncodes_toString version.toInt
    have hidOthers : Others ["$rid"]
        (parameter "$version" (toString version.toInt).toList :: others) :=
      (hothers.mono (by simp)).cons versionKey_plain (by decide) hversion.no_ampersand
    have hversionOthers : Others ["$version"] (parameter "$rid" written :: others) :=
      (hothers.mono (by simp)).cons requestIdKey_plain (by decide) hwritten.no_ampersand
    have hid := find?_parameter requestIdKey_plain hwritten hidOthers hperm
    have hfound := find?_parameter versionKey_plain hversion hversionOthers
      (hperm.trans (List.Perm.swap _ _ _))
    exact (route_twinResponse deviceId _ payload).trans
      (routeTwinResponse_append hlow hhigh hid hfound payload)

/-- Parameters of a call whose id has a separator in it, among others. -/
def callParameters : List (List Char) :=
  [parameter "x" "1".toList, parameter "$rid" (Text.percentEncode "a&b").toList,
    parameter "$version" []]

def responseParameters : List (List Char) :=
  [parameter "$version" "-7".toList, parameter "x" "1".toList,
    parameter "$rid" (Text.percentEncode "é").toList]

theorem route_hub_topics_of_separators :
    route "d" "$iothub/methods/POST/a/b=&c/?x=1&$rid=a%26b&$version=" [0x7B] =
        .methodCall "a/b=&c" "a&b" [0x7B] ∧
      route "d" "$iothub/twin/res/-2147483648/?$version=-7&x=1&$rid=%C3%A9" [] =
        .twinResponse ⟨"é", -2147483648, some (-7), []⟩ := by
  have hx : IsPlainName "x" := ⟨by decide, by decide, by decide⟩
  have hcall : "$iothub/methods/POST/" ++ ("a/b=&c" ++ "/?" ++ query callParameters) =
      "$iothub/methods/POST/a/b=&c/?x=1&$rid=a%26b&$version=" := by decide +kernel
  have hresponse : "$iothub/twin/res/" ++ (toString (-2147483648 : Int) ++ "/?" ++
      query responseParameters) =
      "$iothub/twin/res/-2147483648/?$version=-7&x=1&$rid=%C3%A9" := by decide +kernel
  have hcallOthers : Others ["$rid"] [parameter "x" "1".toList, parameter "$version" []] :=
    (Others.cons (List.forall_mem_nil _) versionKey_plain (by decide) List.not_mem_nil).cons hx
      (by decide) (by decide)
  have hresponseOthers : Others ["$rid", "$version"] [parameter "x" "1".toList] :=
    Others.cons (List.forall_mem_nil _) hx (by decide) (by decide)
  constructor
  · rw [← hcall]
    exact (route_hub_topics "d" [0x7B]).1 "a/b=&c" "a&b" _ _ _ (by decide) (by decide) (by decide)
      (Text.percentEncodes_percentEncode "a&b") hcallOthers (List.Perm.swap _ _ _)
  · rw [← hresponse]
    refine (route_hub_topics "d" []).2 (-2147483648) "é" _ (-7) _ _ (by decide) (by decide)
      (Text.percentEncodes_percentEncode "é") hresponseOthers ?_
    have hmoved := @List.perm_append_comm _
      [parameter "$version" "-7".toList, parameter "x" "1".toList]
      [parameter "$rid" (Text.percentEncode "é").toList]
    exact hmoved

end Topic
end DeviceHub
