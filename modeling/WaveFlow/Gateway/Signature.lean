import Mathlib.Algebra.Group.Nat.Even
import WaveFlow.Gateway.Webhook
import WaveFlow.Library.Utf8

/-!
# Which signature headers pass

`verify_github_signature` slices the header at byte 7, which panics inside a character, decodes the
rest as hex digits of either case, and compares the bytes with the HMAC in constant time. The prefix
that is checked first takes seven bytes, so the slice never panics; the header passes exactly when
the rest spells the HMAC.
-/

namespace WaveFlow

/-! ### Hex digits -/

/-- The hex digits of bytes, in lower case. -/
def hexEncode : List UInt8 → List Char
  | [] => []
  | b :: bs => Nat.digitChar (b.toNat / 16) :: Nat.digitChar (b.toNat % 16) :: hexEncode bs

theorem hexValue_ascii : ∀ n < 128, ∀ k < 16, hexValue (Char.ofNat n) = some (UInt8.ofNat k) ↔
    (Char.ofNat n).toLower = Nat.digitChar k := by decide +kernel

theorem hexValue_lt_ascii : ∀ n < 128, ∀ v ∈ hexValue (Char.ofNat n), v.toNat < 16 := by
  decide +kernel

theorem digitChar_ascii : ∀ k < 16, (Nat.digitChar k).toNat < 128 := by decide +kernel

/-- What is not ASCII is no hex digit. -/
theorem hexValue_wide {c : Char} (hc : 128 ≤ c.toNat) : hexValue c = none := by
  have hnot (d : Char) (hd : d.toNat < 128) : ¬ c ≤ d := by
    intro hle
    have hle' : c.toNat ≤ d.toNat := hle
    omega
  unfold hexValue
  rw [if_neg fun h => hnot '9' (by decide) h.2, if_neg fun h => hnot 'f' (by decide) h.2,
    if_neg fun h => hnot 'F' (by decide) h.2]

theorem toLower_wide {c : Char} (hc : 128 ≤ c.toNat) : c.toLower = c := by
  unfold Char.toLower
  apply dif_neg
  intro h
  have hle : c.toNat ≤ 'Z'.toNat := h.2
  have hz : 'Z'.toNat = 90 := rfl
  omega

theorem hexValue_eq_some {c : Char} {v : UInt8} :
    hexValue c = some v ↔ v.toNat < 16 ∧ c.toLower = Nat.digitChar v.toNat := by
  by_cases hc : c.toNat < 128
  · have hofNat : Char.ofNat c.toNat = c := Char.ofNat_toNat c
    have hlt := hexValue_lt_ascii c.toNat hc
    rw [hofNat] at hlt
    constructor
    · intro h
      have hv := hlt v h
      have hascii := hexValue_ascii c.toNat hc v.toNat hv
      rw [hofNat, UInt8.ofNat_toNat] at hascii
      exact ⟨hv, hascii.1 h⟩
    · rintro ⟨hv, hlower⟩
      have hascii := hexValue_ascii c.toNat hc v.toNat hv
      rw [hofNat, UInt8.ofNat_toNat] at hascii
      exact hascii.2 hlower
  · have hwide : 128 ≤ c.toNat := Nat.le_of_not_lt hc
    rw [hexValue_wide hwide, toLower_wide hwide]
    refine Iff.intro (fun h => by cases h) ?_
    rintro ⟨hv, hlower⟩
    have hdigit := digitChar_ascii v.toNat hv
    rw [← hlower] at hdigit
    omega

theorem hexDecode_cons_eq_some {a b : Char} {rest : List Char} {bs : List UInt8} :
    hexDecode (a :: b :: rest) = some bs ↔
      ∃ hi lo bs', hexValue a = some hi ∧ hexValue b = some lo ∧ hexDecode rest = some bs' ∧
        (hi * 16 + lo) :: bs' = bs := by
  simp [hexDecode, Option.bind_eq_some_iff]

/-- Two half bytes make the byte whose halves they are. -/
theorem halves {hi lo b : UInt8} (hhi : hi.toNat < 16) (hlo : lo.toNat < 16) :
    hi * 16 + lo = b ↔ hi.toNat = b.toNat / 16 ∧ lo.toNat = b.toNat % 16 := by
  have hsixteen : (16 : UInt8).toNat = 16 := rfl
  have hb := b.toNat_lt
  rw [← UInt8.toNat_inj, UInt8.toNat_add, UInt8.toNat_mul, hsixteen]
  omega

/-- **What `hexDecode` reads**: the hex digits of the bytes, in either case. -/
theorem hexDecode_eq_some {digits : List Char} {bs : List UInt8} :
    hexDecode digits = some bs ↔ digits.map Char.toLower = hexEncode bs := by
  induction digits using hexDecode.induct generalizing bs with
  | case1 => cases bs <;> simp [hexDecode, hexEncode]
  | case2 c => cases bs <;> simp [hexDecode, hexEncode]
  | case3 a b rest ih =>
    rw [hexDecode_cons_eq_some]
    constructor
    · rintro ⟨hi, lo, bs, ha, hb, hrest, rfl⟩
      obtain ⟨hhi, ha⟩ := hexValue_eq_some.1 ha
      obtain ⟨hlo, hb⟩ := hexValue_eq_some.1 hb
      obtain ⟨hdiv, hmod⟩ := (halves hhi hlo).1 rfl
      rw [hexEncode, ← hdiv, ← hmod, ← ha, ← hb, ← ih.1 hrest]
      rfl
    · intro h
      cases bs with
      | nil => cases h
      | cons x bs =>
        rw [hexEncode, List.map_cons, List.map_cons] at h
        injection h with ha h
        injection h with hb hrest
        have hx := x.toNat_lt
        have hsize : UInt8.size = 256 := rfl
        have hhi : (UInt8.ofNat (x.toNat / 16)).toNat = x.toNat / 16 :=
          UInt8.toNat_ofNat_of_lt (by omega)
        have hlo : (UInt8.ofNat (x.toNat % 16)).toNat = x.toNat % 16 :=
          UInt8.toNat_ofNat_of_lt (by omega)
        refine ⟨UInt8.ofNat (x.toNat / 16), UInt8.ofNat (x.toNat % 16), bs,
          hexValue_eq_some.2 ⟨by omega, hhi.symm ▸ ha⟩,
          hexValue_eq_some.2 ⟨by omega, hlo.symm ▸ hb⟩, ih.2 hrest, ?_⟩
        rw [(halves (by omega) (by omega)).2 ⟨hhi, hlo⟩]

/-- A hex digit, in either case. -/
def IsHexDigit (c : Char) : Prop := '0' ≤ c ∧ c ≤ '9' ∨ 'a' ≤ c ∧ c ≤ 'f' ∨ 'A' ≤ c ∧ c ≤ 'F'

theorem hexValue_isSome {c : Char} : (hexValue c).isSome ↔ IsHexDigit c := by
  unfold hexValue IsHexDigit
  split_ifs <;> simp [*]

theorem hexEncode_length (bs : List UInt8) : (hexEncode bs).length = 2 * bs.length := by
  induction bs with
  | nil => rfl
  | cons b bs ih =>
    simp only [hexEncode, List.length_cons, ih]
    omega

/-- **What `hexDecode` accepts**: hex digits, an even number of them. -/
theorem hexDecode_isSome {digits : List Char} :
    (hexDecode digits).isSome ↔ Even digits.length ∧ ∀ c ∈ digits, IsHexDigit c := by
  induction digits using hexDecode.induct with
  | case1 => simp [hexDecode]
  | case2 c => simp [hexDecode]
  | case3 a b rest ih =>
    have hlength : Even (a :: b :: rest).length ↔ Even rest.length := by
      simp [Nat.even_add_one]
    have hsome : (hexDecode (a :: b :: rest)).isSome ↔
        (hexValue a).isSome ∧ (hexValue b).isSome ∧ (hexDecode rest).isSome := by
      cases ha : hexValue a <;> cases hb : hexValue b <;> cases hrest : hexDecode rest <;>
        simp [hexDecode, ha, hb, hrest]
    rw [hsome, hexValue_isSome, hexValue_isSome, ih, hlength, List.forall_mem_cons,
      List.forall_mem_cons]
    tauto

/-! ### Comparing bytes -/

/-- `ct_eq` of byte slices: the lengths, then every byte, with no early exit. -/
def ctEq (provided expected : List UInt8) : Bool :=
  provided.length = expected.length &&
    (provided.zip expected).foldl (fun same bytes => same && bytes.1 = bytes.2) true

theorem foldl_and_eq_true {l : List (UInt8 × UInt8)} {same : Bool} :
    l.foldl (fun same bytes => same && bytes.1 = bytes.2) same = true ↔
      same = true ∧ ∀ bytes ∈ l, bytes.1 = bytes.2 := by
  induction l generalizing same with
  | nil => simp
  | cons bytes l ih =>
    rw [List.foldl_cons, ih, List.forall_mem_cons, Bool.and_eq_true, decide_eq_true_eq, and_assoc]

theorem ctEq_eq_true {provided expected : List UInt8} :
    ctEq provided expected = true ↔ provided = expected := by
  rw [ctEq, Bool.and_eq_true, decide_eq_true_eq, foldl_and_eq_true]
  constructor
  · rintro ⟨hlength, -, hbytes⟩
    apply List.ext_getElem hlength
    intro k hk hk'
    have hzip : k < (provided.zip expected).length := by
      rw [List.length_zip]
      omega
    have hpair := hbytes _ (List.getElem_mem hzip)
    rw [List.getElem_zip] at hpair
    exact hpair
  · rintro rfl
    refine ⟨rfl, rfl, fun bytes hbytes => ?_⟩
    rw [List.zip_eq_zipWith, List.zipWith_self] at hbytes
    obtain ⟨b, -, rfl⟩ := List.mem_map.1 hbytes
    rfl

/-- The comparison of the digests: the lengths, and then the bytes. -/
theorem differ_iff {provided expected : List UInt8} :
    (provided.length ≠ expected.length || !ctEq provided expected) = true ↔
      provided ≠ expected := by
  rw [Bool.or_eq_true, decide_eq_true_eq, Bool.not_eq_true', ← Bool.not_eq_true, ctEq_eq_true]
  exact or_iff_right_of_imp fun hlength hsame => hlength (congrArg List.length hsame)

/-! ### The check -/

variable (C : Crates)

/-- `verify_github_signature` with the slice `signature_header[7..]`; there is no result when it
panics. -/
def verifyGithubSignature? (secret : String) (body : List UInt8) (signatureHeader : String) :
    Option (Except WaveFlowError Unit) :=
  if !signatureHeader.startsWith "sha256=" then
    some (.error (.webhook "missing sha256 prefix"))
  else do
    let providedHex ← Utf8.dropBytes 7 signatureHeader.toList
    match hexDecode providedHex with
    | none => some (.error (.webhook "invalid signature hex"))
    | some provided =>
      let expected := (C.hmacSha256 secret.toUTF8.data.toList body).toList
      if provided.length ≠ expected.length || !ctEq provided expected then
        some (.error (.unauthorized "invalid webhook signature"))
      else some (.ok ())

theorem toList_tagged (digits : List Char) :
    ("sha256=" ++ String.ofList digits).toList = "sha256=".toList ++ digits := by
  rw [String.toList_append, String.toList_ofList (l := digits)]

theorem startsWith_tag {header : String} :
    header.startsWith "sha256=" = true ↔ ∃ digits, header = "sha256=" ++ String.ofList digits := by
  rw [String.startsWith_string_iff]
  constructor
  · rintro ⟨digits, hdigits⟩
    exact ⟨digits, String.toList_inj.1 (hdigits.symm.trans (toList_tagged digits).symm)⟩
  · rintro ⟨digits, rfl⟩
    exact ⟨digits, (toList_tagged digits).symm⟩

/-- The check, on a header with the prefix. -/
theorem verifyGithubSignature_tagged (secret : String) (body : List UInt8) (digits : List Char) :
    verifyGithubSignature C secret body ("sha256=" ++ String.ofList digits) =
      (hexDecode digits).elim (.error (.webhook "invalid signature hex")) fun provided =>
        if provided = (C.hmacSha256 secret.toUTF8.data.toList body).toList then .ok ()
        else .error (.unauthorized "invalid webhook signature") := by
  have hseven : "sha256=".toList.length = 7 := rfl
  rw [verifyGithubSignature, startsWith_tag.2 ⟨digits, rfl⟩, toList_tagged, ← hseven,
    List.drop_left]
  cases hexDecode digits with
  | none => rfl
  | some provided => rfl

/-- The prefix is seven bytes, so the header can be cut behind it. -/
theorem dropBytes_tag (digits : List Char) :
    Utf8.dropBytes 7 ("sha256=" ++ String.ofList digits).toList = some digits :=
  Utf8.dropBytes_eq_some.2 ⟨"sha256=".toList, toList_tagged digits, rfl⟩

/-- **It never panics**, and does what the handler's check does. -/
theorem verifyGithubSignature?_eq (secret : String) (body : List UInt8) (header : String) :
    verifyGithubSignature? C secret body header =
      some (verifyGithubSignature C secret body header) := by
  by_cases htag : header.startsWith "sha256=" = true
  · obtain ⟨digits, rfl⟩ := startsWith_tag.1 htag
    rw [verifyGithubSignature_tagged, verifyGithubSignature?, htag, dropBytes_tag]
    simp only [Bool.not_true, Bool.false_eq_true, if_false, Option.bind_eq_bind, Option.bind_some]
    cases hdecode : hexDecode digits with
    | none => rfl
    | some provided =>
      simp only [differ_iff, Option.elim_some]
      split_ifs <;> first | rfl | contradiction
  · rw [Bool.not_eq_true] at htag
    rw [verifyGithubSignature, verifyGithubSignature?, htag]
    rfl

/-! ### Which headers pass -/

/-- What spells bytes are hex digits, two for each. -/
theorem isHexDigit_of_spelled {digits : List Char} {bs : List UInt8}
    (hspelled : digits.map Char.toLower = hexEncode bs) :
    digits.length = 2 * bs.length ∧ ∀ c ∈ digits, IsHexDigit c := by
  constructor
  · rw [← hexEncode_length, ← hspelled, List.length_map]
  · have hdecoded : (hexDecode digits).isSome := by
      rw [hexDecode_eq_some.2 hspelled]
      rfl
    exact (hexDecode_isSome.1 hdecoded).2

/-- The digits can be decoded, to other bytes. -/
theorem hexDecode_other {digits : List Char} {bs : List UInt8} :
    (∃ provided, hexDecode digits = some provided ∧ provided ≠ bs) ↔
      Even digits.length ∧ (∀ c ∈ digits, IsHexDigit c) ∧
        digits.map Char.toLower ≠ hexEncode bs := by
  rw [← and_assoc, ← hexDecode_isSome, ne_eq, ← hexDecode_eq_some]
  cases hexDecode digits <;> simp

/-- Unless the header is refused as malformed, it has the tag, and hex digits that decide. -/
theorem decoded_of_verify {secret : String} {body : List UInt8} {header : String}
    (h : ∀ text, verifyGithubSignature C secret body header ≠ .error (.webhook text)) :
    ∃ digits provided, header = "sha256=" ++ String.ofList digits ∧
      hexDecode digits = some provided ∧ verifyGithubSignature C secret body header =
        if provided = (C.hmacSha256 secret.toUTF8.data.toList body).toList then .ok ()
        else .error (.unauthorized "invalid webhook signature") := by
  by_cases htag : header.startsWith "sha256=" = true
  · obtain ⟨digits, rfl⟩ := startsWith_tag.1 htag
    rw [verifyGithubSignature_tagged] at h ⊢
    cases hdecode : hexDecode digits with
    | none =>
      rw [hdecode] at h
      exact absurd rfl (h "invalid signature hex")
    | some provided => exact ⟨digits, provided, rfl, hdecode, rfl⟩
  · rw [Bool.not_eq_true] at htag
    rw [verifyGithubSignature, htag] at h
    exact absurd rfl (h "missing sha256 prefix")

/-- **Which headers pass**: the tag and the hex digits, in either case, of the HMAC. -/
theorem verifyGithubSignature_ok {C : Crates} {secret : String} {body : List UInt8}
    {header : String} :
    verifyGithubSignature C secret body header = .ok () ↔
      ∃ digits, header = "sha256=" ++ String.ofList digits ∧
        digits.map Char.toLower =
          hexEncode (C.hmacSha256 secret.toUTF8.data.toList body).toList := by
  constructor
  · intro h
    have hwell : ∀ text, verifyGithubSignature C secret body header ≠ .error (.webhook text) := by
      simp [h]
    obtain ⟨digits, provided, rfl, hdecode, hresult⟩ := decoded_of_verify C hwell
    rw [h] at hresult
    split_ifs at hresult with hmac
    rw [hmac] at hdecode
    exact ⟨digits, rfl, hexDecode_eq_some.1 hdecode⟩
  · rintro ⟨digits, rfl, hdigits⟩
    rw [verifyGithubSignature_tagged, hexDecode_eq_some.2 hdigits]
    exact if_pos rfl

/-- Which headers are unauthorized: the tag and hex digits of other bytes. -/
theorem verifyGithubSignature_unauthorized {secret : String} {body : List UInt8} {header : String} :
    (∃ text, verifyGithubSignature C secret body header = .error (.unauthorized text)) ↔
      ∃ digits, header = "sha256=" ++ String.ofList digits ∧ ∃ provided,
        hexDecode digits = some provided ∧
          provided ≠ (C.hmacSha256 secret.toUTF8.data.toList body).toList := by
  constructor
  · rintro ⟨text, h⟩
    have hwell : ∀ text, verifyGithubSignature C secret body header ≠ .error (.webhook text) := by
      simp [h]
    obtain ⟨digits, provided, rfl, hdecode, hresult⟩ := decoded_of_verify C hwell
    rw [h] at hresult
    split_ifs at hresult with hmac
    exact ⟨digits, rfl, provided, hdecode, hmac⟩
  · rintro ⟨digits, rfl, provided, hdecode, hmac⟩
    refine ⟨"invalid webhook signature", ?_⟩
    rw [verifyGithubSignature_tagged, hdecode, Option.elim_some, if_neg hmac]

/-- **What the signature check accepts and refuses.** For every secret, body and header it does not
panic; it is `Ok` for the tag and the 64 hex digits of the HMAC, in either case, and `Unauthorized`
for the tag and an even number of hex digits that do not spell it. -/
theorem signature_checked (secret : String) (body : List UInt8) (header : String) :
    (∃ result, verifyGithubSignature? C secret body header = some result) ∧
      (verifyGithubSignature? C secret body header = some (.ok ()) ↔
        ∃ digits, header = "sha256=" ++ String.ofList digits ∧ digits.length = 64 ∧
          (∀ c ∈ digits, IsHexDigit c) ∧ digits.map Char.toLower =
            hexEncode (C.hmacSha256 secret.toUTF8.data.toList body).toList) ∧
      ((∃ text, verifyGithubSignature? C secret body header = some (.error (.unauthorized text))) ↔
        ∃ digits, header = "sha256=" ++ String.ofList digits ∧ Even digits.length ∧
          (∀ c ∈ digits, IsHexDigit c) ∧ digits.map Char.toLower ≠
            hexEncode (C.hmacSha256 secret.toUTF8.data.toList body).toList) := by
  set mac := (C.hmacSha256 secret.toUTF8.data.toList body).toList with hmac
  have hsize : 2 * mac.length = 64 := by rw [hmac, Vector.length_toList]
  simp only [verifyGithubSignature?_eq, Option.some.injEq]
  refine ⟨⟨_, rfl⟩, ?_, ?_⟩
  · rw [verifyGithubSignature_ok, ← hmac]
    refine exists_congr fun digits => and_congr_right fun _ => ?_
    constructor
    · intro hspelled
      obtain ⟨hlength, hdigits⟩ := isHexDigit_of_spelled hspelled
      exact ⟨hlength.trans hsize, hdigits, hspelled⟩
    · rintro ⟨-, -, hspelled⟩
      exact hspelled
  · rw [verifyGithubSignature_unauthorized, ← hmac]
    exact exists_congr fun digits => and_congr_right fun _ => hexDecode_other

end WaveFlow
