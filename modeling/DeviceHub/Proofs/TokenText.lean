import DeviceHub.Credentials.Signature
import DeviceHub.Proofs.IntegerText
import DeviceHub.Proofs.QueryText

/-!
The text of a `SharedAccessSignature`.  No part of it holds a separator, so the text falls apart
into its parts again and tells everything about the signature; in the same way what is signed tells
the resource and the expiry.
-/
namespace DeviceHub

namespace Text

lemma percentEncode_inj {s s' : String} : percentEncode s = percentEncode s' ↔ s = s' := by
  refine ⟨fun h => ?_, congrArg _⟩
  rw [← percentDecode_percentEncode s, h, percentDecode_percentEncode]

lemma percentByte_newline : ∀ n < 256, '\n' ∉ percentByte (UInt8.ofNat n) := by
  decide +kernel

lemma percentEncode_newline (s : String) : '\n' ∉ (percentEncode s).toList := by
  rw [percentEncode, String.toList_ofList]
  intro h
  obtain ⟨byte, -, hbyte⟩ := List.mem_flatMap.1 h
  have hnone := percentByte_newline byte.toNat byte.toNat_lt
  rw [UInt8.ofNat_toNat] at hnone
  exact hnone hbyte

lemma percentEncode_ampersand (s : String) : '&' ∉ (percentEncode s).toList := by
  intro h
  cases percentEncode_separator s '&' h

end Text

namespace Signature

/-- The parts of the text of a token, which ampersands separate. -/
def parts (s : Signature) : List (List Char) :=
  ["SharedAccessSignature sr=".toList ++ (Text.percentEncode s.resource).toList,
    "sig=".toList ++ (Text.percentEncode s.signature).toList,
    "se=".toList ++ (toString s.expiry.toInt).toList] ++
    (s.keyName.map fun name => "skn=".toList ++ (Text.percentEncode name).toList).toList

lemma toList_text (s : Signature) : s.text.toList = Text.joinWith ['&'] s.parts := by
  have hsig : "&sig=".toList = '&' :: "sig=".toList := rfl
  have hse : "&se=".toList = '&' :: "se=".toList := rfl
  have hskn : "&skn=".toList = '&' :: "skn=".toList := rfl
  unfold text parts
  -- the encoded texts are taken as they are: to evaluate them does not end
  generalize Text.percentEncode s.resource = resource
  generalize Text.percentEncode s.signature = signature
  generalize toString s.expiry.toInt = expiry
  cases s.keyName with
  | none =>
    simp only [String.toList_append, String.append_empty, Text.joinWith, Option.map_none,
      Option.toList_none, List.append_assoc, List.cons_append, List.nil_append, hsig, hse]
  | some name =>
    dsimp only [Option.map_some]
    generalize Text.percentEncode name = name
    simp only [String.toList_append, Text.joinWith, Option.toList_some, List.append_assoc,
      List.cons_append, List.nil_append, hsig, hse, hskn]

lemma ampersand_not_mem (s : Signature) : ∀ part ∈ s.parts, '&' ∉ part := by
  have hlabelled {label : String} {value : List Char} (hlabel : '&' ∉ label.toList)
      (hvalue : '&' ∉ value) : '&' ∉ label.toList ++ value := fun h =>
    (List.mem_append.1 h).elim hlabel hvalue
  intro part hpart
  simp only [parts, List.mem_append, List.mem_cons, List.not_mem_nil, or_false,
    Option.mem_toList, Option.map_eq_some_iff] at hpart
  obtain (rfl | rfl | rfl) | ⟨name, -, rfl⟩ := hpart
  · exact hlabelled (by decide) (Text.percentEncode_ampersand _)
  · exact hlabelled (by decide) (Text.percentEncode_ampersand _)
  · refine hlabelled (by decide) fun h => ?_
    obtain h | h := Text.mem_toString h
    · cases h
    · cases h
  · exact hlabelled (by decide) (Text.percentEncode_ampersand _)

lemma splitBy_text (s : Signature) : Text.splitBy (· == '&') s.text.toList = s.parts := by
  rw [toList_text]
  refine Text.splitBy_joinWith (by simp [parts]) fun part hpart c hc => ?_
  rw [beq_eq_false_iff_ne]
  rintro rfl
  exact s.ampersand_not_mem part hpart hc

lemma parts_inj {s s' : Signature} : s.parts = s'.parts ↔ s = s' := by
  refine ⟨fun h => ?_, congrArg _⟩
  obtain ⟨resource, signature, expiry, keyName⟩ := s
  obtain ⟨resource', signature', expiry', keyName'⟩ := s'
  simp only [parts, List.cons_append, List.nil_append, List.cons.injEq,
    List.append_cancel_left_eq, String.toList_inj, Text.percentEncode_inj, Text.toString_inj,
    Int64.toInt_inj] at h
  obtain ⟨rfl, rfl, rfl, hname⟩ := h
  congr 1
  cases keyName with
  | none =>
    cases keyName' with
    | none => rfl
    | some name' => cases hname
  | some name =>
    cases keyName' with
    | none => cases hname
    | some name' =>
      simpa only [Option.map_some, Option.toList_some, List.cons.injEq, and_true,
        List.append_cancel_left_eq, String.toList_inj, Text.percentEncode_inj,
        Option.some.injEq] using hname

/-- What is signed falls apart into the resource and the expiry. -/
lemma cutAt?_stringToSign (resource : String) (expiry : Int64) :
    Text.cutAt? (· == '\n') (stringToSign resource expiry).toList =
      some ((Text.percentEncode resource).toList, (toString expiry.toInt).toList) := by
  have hline : ∀ c ∈ (Text.percentEncode resource).toList, (c == '\n') = false := by
    intro c hc
    rw [beq_eq_false_iff_ne]
    rintro rfl
    exact Text.percentEncode_newline resource hc
  have hlines : (stringToSign resource expiry).toList =
      (Text.percentEncode resource).toList ++ '\n' :: (toString expiry.toInt).toList := by
    unfold stringToSign
    rw [String.toList_append, String.toList_append, List.append_assoc]
    rfl
  rw [hlines, Text.cutAt?_append hline (beq_self_eq_true _)]

/-- Two tokens with one text are the same, with or without the name of a key, and what is signed is
the same only for one resource and one expiry. -/
theorem text_faithful (s s' : Signature) :
    (s.text = s'.text ↔ s = s') ∧
    ∀ (resource resource' : String) (expiry expiry' : Int64),
      stringToSign resource expiry = stringToSign resource' expiry' ↔
        resource = resource' ∧ expiry = expiry' := by
  refine ⟨⟨fun h => ?_, congrArg _⟩, fun resource resource' expiry expiry' => ⟨fun h => ?_, ?_⟩⟩
  · rw [← parts_inj, ← splitBy_text, ← splitBy_text, h]
  · have hcut := cutAt?_stringToSign resource expiry
    rw [h, cutAt?_stringToSign] at hcut
    obtain ⟨hresource, hexpiry⟩ := Prod.mk.inj (Option.some.inj hcut)
    exact ⟨Text.percentEncode_inj.1 (String.toList_inj.1 hresource.symm),
      Int64.toInt_inj.1 (Text.toString_inj.1 (String.toList_inj.1 hexpiry.symm))⟩
  · rintro ⟨rfl, rfl⟩
    rfl

end Signature
end DeviceHub
