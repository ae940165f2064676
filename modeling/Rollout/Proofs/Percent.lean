import Rollout.Url.Target

/-!
# Rollout.Proofs.Percent

What is encoded for a URL can be read back.

* `decodeUtf8_bytesOf` — the bytes of characters encode these characters;
* `decode_encode` — escapes spell what has been encoded, if every `%` in it has been;
* `decodeParam_encodeParam` — in a query they always do;
* `params_withParams` — a target has the parameters that it is given.
-/

namespace Rollout

/-! ## characters and their bytes -/

namespace Text

/-- The byte that brings the last six bits of a number. -/
def followingByte (n : Nat) : UInt8 := UInt8.ofNat (n % 64 + 128)

theorem toNat_followingByte (n : Nat) : (followingByte n).toNat = n % 64 + 128 := by
  rw [followingByte, UInt8.toNat_ofNat']
  omega

/-- Bytes that go on with a character are read as such. -/
theorem continuation_following {first low high : Nat}
    (h : low ≤ first % 64 + 128 ∧ first % 64 + 128 ≤ high) (others : List Nat)
    (rest : List UInt8) :
    continuation (others.length + 1) low high ((first :: others).map followingByte ++ rest) =
      (first :: others).map (· % 64 + 128) := by
  induction others generalizing first low high with
  | nil =>
      simp only [List.map_cons, List.map_nil, List.cons_append, List.nil_append, List.length_nil]
      rw [continuation, toNat_followingByte, if_pos h]
      cases rest <;> rfl
  | cons second others ih =>
      rw [List.map_cons, List.cons_append, List.length_cons, continuation, toNat_followingByte,
        if_pos h, ih (by omega), List.map_cons (a := first)]

/-- A byte below 128 is a character of its own. -/
theorem decodeBytes_of_small {b : UInt8} (h : b.toNat < 0x80) (fuel : Nat) (rest : List UInt8) :
    decodeBytes (fuel + 1) (b :: rest) = Char.ofNat b.toNat :: decodeBytes fuel rest := by
  rw [decodeBytes, if_pos (UInt8.lt_iff_toNat_lt.mpr h)]

/-- A character of several bytes: the first one says how many go on with it, and each of these brings
six bits. -/
theorem decodeBytes_of_lead {b : UInt8} {low high bits : Nat} (first : Nat) (others : List Nat)
    (hlead : lead? b.toNat = some (others.length + 1, low, high, bits)) (hlarge : 0x80 ≤ b.toNat)
    (h : low ≤ first % 64 + 128 ∧ first % 64 + 128 ≤ high) (fuel : Nat) (rest : List UInt8) :
    decodeBytes (fuel + 1) (b :: ((first :: others).map followingByte ++ rest)) =
      Char.ofNat ((first :: others).foldl (fun n m => n * 64 + m % 64) bits) ::
        decodeBytes fuel rest := by
  have hnot : ¬ b < 0x80 := fun h => absurd (UInt8.lt_iff_toNat_lt.mp h) (Nat.not_lt.mpr hlarge)
  rw [decodeBytes, if_neg hnot]
  simp only [hlead, continuation_following h, List.length_map, List.length_cons, if_true,
    List.foldl_map, Nat.add_sub_cancel]
  rw [List.drop_left' (by simp)]

/-- The lead of two bytes. -/
theorem lead?_two {n : Nat} (hlow : 0x80 ≤ n) (hhigh : n < 0x800) :
    lead? (n / 64 + 192) = some (1, 0x80, 0xbf, n / 64) := by
  rw [lead?, if_pos (by omega)]
  simp

/-- The lead of three bytes, which leave out surrogates. -/
theorem lead?_three {n : Nat} (hlow : 0x800 ≤ n) (hhigh : n < 0x10000)
    (hvalid : n < 0xd800 ∨ 0xdfff < n) :
    ∃ low high, lead? (n / 4096 + 224) = some (2, low, high, n / 4096) ∧
      low ≤ n / 64 % 64 + 128 ∧ n / 64 % 64 + 128 ≤ high := by
  rw [lead?, if_neg (by omega)]
  by_cases hfirst : n / 4096 = 0
  · exact ⟨0xa0, 0xbf, by rw [if_pos (by omega), hfirst], by omega, by omega⟩
  · rw [if_neg (by omega)]
    by_cases hlast : n / 4096 = 13
    · exact ⟨0x80, 0x9f, by rw [if_pos (by omega), hlast], by omega, by omega⟩
    · exact ⟨0x80, 0xbf, by rw [if_neg (by omega), if_pos (by omega), Nat.add_sub_cancel],
        by omega, by omega⟩

/-- The lead of four bytes. -/
theorem lead?_four {n : Nat} (hlow : 0x10000 ≤ n) (hhigh : n < 0x110000) :
    ∃ low high, lead? (n / 262144 + 240) = some (3, low, high, n / 262144) ∧
      low ≤ n / 4096 % 64 + 128 ∧ n / 4096 % 64 + 128 ≤ high := by
  rw [lead?, if_neg (by omega), if_neg (by omega), if_neg (by omega), if_neg (by omega)]
  by_cases hfirst : n / 262144 = 0
  · exact ⟨0x90, 0xbf, by rw [if_pos (by omega), hfirst], by omega, by omega⟩
  · rw [if_neg (by omega)]
    by_cases hlast : n / 262144 = 4
    · exact ⟨0x80, 0x8f, by rw [if_pos (by omega), hlast], by omega, by omega⟩
    · exact ⟨0x80, 0xbf, by rw [if_neg (by omega), if_pos (by omega), Nat.add_sub_cancel],
        by omega, by omega⟩

/-- The bytes of a character encode it, whatever follows. -/
theorem decodeBytes_utf8EncodeChar (c : Char) (fuel : Nat) (rest : List UInt8) :
    decodeBytes (fuel + 1) (String.utf8EncodeChar c ++ rest) = c :: decodeBytes fuel rest := by
  obtain ⟨n, hn⟩ : ∃ n, c.val.toNat = n := ⟨_, rfl⟩
  have hvalid : n < 0xd800 ∨ 0xdfff < n ∧ n < 0x110000 := hn ▸ c.valid
  have hc : Char.ofNat n = c := by
    rw [← hn]
    exact Char.ofNat_toNat c
  have hbyte {m : Nat} (h : m < 0x100) : (UInt8.ofNat m).toNat = m := by
    rw [UInt8.toNat_ofNat']
    omega
  unfold String.utf8EncodeChar
  simp only [hn]
  by_cases hone : n ≤ 127
  · have hb := hbyte (m := n) (by omega)
    rw [if_pos hone, List.singleton_append, decodeBytes_of_small (by omega), hb, hc]
  rw [if_neg hone]
  by_cases htwo : n ≤ 2047
  · have hb := hbyte (m := n / 64 + 192) (by omega)
    have hlead := lead?_two (n := n) (by omega) (by omega)
    rw [← hb] at hlead
    have hread := decodeBytes_of_lead n [] hlead (by omega) (by omega) fuel rest
    rw [if_pos htwo, Nat.mod_eq_of_lt (by omega : n / 64 < 32)]
    refine hread.trans ?_
    rw [List.foldl_cons, List.foldl_nil, Nat.div_add_mod', hc]
  rw [if_neg htwo]
  by_cases hthree : n ≤ 65535
  · have hb := hbyte (m := n / 4096 + 224) (by omega)
    obtain ⟨low, high, hlead, hbounds⟩ := lead?_three (n := n) (by omega) (by omega) (by omega)
    rw [← hb] at hlead
    have hread := decodeBytes_of_lead (n / 64) [n] hlead (by omega) hbounds fuel rest
    rw [if_pos hthree, Nat.mod_eq_of_lt (by omega : n / 4096 < 16)]
    refine hread.trans ?_
    have hsum : (n / 4096 * 64 + n / 64 % 64) * 64 + n % 64 = n := by omega
    rw [List.foldl_cons, List.foldl_cons, List.foldl_nil, hsum, hc]
  · have hb := hbyte (m := n / 262144 + 240) (by omega)
    obtain ⟨low, high, hlead, hbounds⟩ := lead?_four (n := n) (by omega) (by omega)
    rw [← hb] at hlead
    have hread := decodeBytes_of_lead (n / 4096) [n / 64, n] hlead (by omega) hbounds fuel rest
    rw [if_neg hthree, Nat.mod_eq_of_lt (by omega : n / 262144 < 8)]
    refine hread.trans ?_
    have hsum : ((n / 262144 * 64 + n / 4096 % 64) * 64 + n / 64 % 64) * 64 + n % 64 = n := by omega
    rw [List.foldl_cons, List.foldl_cons, List.foldl_cons, List.foldl_nil, hsum, hc]

/-- What is read from the bytes of characters are these characters. -/
theorem decodeBytes_flatMap (cs : List Char) {fuel : Nat}
    (h : (cs.flatMap String.utf8EncodeChar).length ≤ fuel) :
    decodeBytes fuel (cs.flatMap String.utf8EncodeChar) = cs := by
  induction cs generalizing fuel with
  | nil => cases fuel <;> rfl
  | cons c cs ih =>
      have hpos := c.utf8Size_pos
      rw [List.flatMap_cons, List.length_append, String.length_utf8EncodeChar] at h
      obtain ⟨fuel, rfl⟩ : ∃ more, fuel = more + 1 := ⟨fuel - 1, by omega⟩
      rw [List.flatMap_cons, decodeBytes_utf8EncodeChar, ih (by omega)]

end Text

namespace Url

open Text

/-- The bytes of a text are those of its characters. -/
theorem bytesOf_eq_flatMap (cs : List Char) : bytesOf cs = cs.flatMap String.utf8EncodeChar := by
  change (cs.flatMap String.utf8EncodeChar).toByteArray.data.toList = _
  rw [List.data_toByteArray]

theorem bytesOf_cons (c : Char) (cs : List Char) : bytesOf (c :: cs) = bytesOf [c] ++ bytesOf cs := by
  simp [bytesOf_eq_flatMap]

/-- The bytes of characters encode these characters. -/
theorem decodeUtf8_bytesOf (cs : List Char) : decodeUtf8 (bytesOf cs) = cs := by
  rw [decodeUtf8, bytesOf_eq_flatMap]
  exact decodeBytes_flatMap cs (Nat.le_refl _)

/-! ## escapes -/

/-- The two digits of a byte are read as the byte. -/
theorem ofAscii?_hex {n : Nat} (h : n < 256) :
    ofAscii? 16 ((hex 2 n).map Char.toUpper) = some n := by
  have hall : ∀ n : Fin 256, ofAscii? 16 ((hex 2 n).map Char.toUpper) = some n.val := by
    decide +kernel
  exact hall ⟨n, h⟩

/-- The escape of a byte spells it. -/
theorem escapedBytes_encodedByte (b : UInt8) (rest : List Char) :
    escapedBytes (encodedByte b ++ rest) = b :: escapedBytes rest := by
  have hdigits := ofAscii?_hex b.toNat_lt
  obtain ⟨x, y, hxy⟩ : ∃ x y, (hex 2 b.toNat).map Char.toUpper = [x, y] := ⟨_, _, rfl⟩
  rw [hxy] at hdigits
  rw [encodedByte, hxy, List.cons_append, List.cons_append, List.cons_append, List.nil_append,
    escapedBytes, hdigits]
  simp

theorem escapedBytes_cons_of_ne {c : Char} (h : c ≠ '%') (rest : List Char) :
    escapedBytes (c :: rest) = bytesOf [c] ++ escapedBytes rest := by
  rw [escapedBytes]
  rintro _ _ _ rfl
  contradiction

/-- Bytes that are escaped are read as they were. -/
theorem escapedBytes_flatMap (bytes : List UInt8) (rest : List Char) :
    escapedBytes (bytes.flatMap encodedByte ++ rest) = bytes ++ escapedBytes rest := by
  induction bytes with
  | nil => rfl
  | cons b bytes ih =>
      rw [List.flatMap_cons, List.append_assoc, escapedBytes_encodedByte, ih, List.cons_append]

/-- The escapes in an encoded text spell the bytes of that text, if every `%` in it is encoded. -/
theorem escapedBytes_encode {allowed : Char → Bool} {cs : List Char}
    (h : '%' ∈ cs → allowed '%' = false) : escapedBytes (encode allowed cs) = bytesOf cs := by
  induction cs with
  | nil => rfl
  | cons c cs ih =>
      have hrest := ih fun hmem => h (.tail _ hmem)
      rw [bytesOf_cons, encode, List.flatMap_cons, ← encode]
      by_cases hc : allowed c = true
      · rw [if_pos hc, List.singleton_append, escapedBytes_cons_of_ne, hrest]
        rintro rfl
        rw [h (.head _)] at hc
        contradiction
      · rw [if_neg hc, escapedBytes_flatMap, hrest]

/-- What is encoded can be read back, if every `%` in it is encoded. -/
theorem decode_encode {allowed : Char → Bool} {cs : List Char}
    (h : '%' ∈ cs → allowed '%' = false) : decode (encode allowed cs) = cs := by
  rw [decode, escapedBytes_encode h, decodeUtf8_bytesOf]

/-! ## parameters -/

/-- No character of an escape means anything in a query. -/
theorem not_mem_encodedByte {c : Char} (hc : c = '+' ∨ c = '&' ∨ c = '=') (b : UInt8) :
    c ∉ encodedByte b := by
  have hall : ∀ n : Fin 256, ('%' :: (hex 2 n).map Char.toUpper).all
      (fun c => c ≠ '+' ∧ c ≠ '&' ∧ c ≠ '=') = true := by decide +kernel
  intro hmem
  have hne := of_decide_eq_true (List.all_eq_true.mp (hall ⟨b.toNat, b.toNat_lt⟩) c hmem)
  obtain rfl | rfl | rfl := hc <;> simp at hne

/-- Names and values hold no sign of a query. -/
theorem not_mem_encodeParam {c : Char} (hc : c = '&' ∨ c = '=') (s : String) :
    c ∉ encodeParam s := by
  intro hmem
  obtain ⟨x, -, hx⟩ := List.mem_flatMap.mp hmem
  split at hx
  · obtain rfl := List.mem_singleton.mp hx
    simp at hc
  split at hx
  · rename_i hunreserved
    obtain rfl := List.mem_singleton.mp hx
    obtain rfl | rfl := hc <;> simp [isUnreserved] at hunreserved
  · obtain ⟨b, -, hb⟩ := List.mem_flatMap.mp hx
    exact not_mem_encodedByte (.inr hc) b hb

/-- Where blanks stand for `+`, a name or value is encoded as any other text. -/
theorem encodeParam_with_blanks (s : String) :
    (encodeParam s).map (fun c => if c = '+' then ' ' else c) =
      encode (fun c => c = ' ' || isUnreserved c) s.toList := by
  rw [encodeParam, encode, List.map_flatMap]
  congr 1
  funext c
  by_cases hblank : c = ' '
  · subst hblank; rfl
  rw [if_neg hblank]
  by_cases hc : isUnreserved c = true
  · have hplus : c ≠ '+' := by
      rintro rfl
      simp [isUnreserved] at hc
    simp [hc, hplus]
  · rw [if_neg hc, if_neg (by simp [hblank, hc]), List.map_congr_left (g := id), List.map_id]
    intro x hx
    obtain ⟨b, -, hb⟩ := List.mem_flatMap.mp hx
    refine if_neg ?_
    rintro rfl
    exact not_mem_encodedByte (.inl rfl) b hb

/-- A parameter that is encoded is read as it was. -/
theorem decodeParam_encodeParam (s : String) : decodeParam (encodeParam s) = s := by
  rw [decodeParam, encodeParam_with_blanks, decode_encode fun _ => rfl, String.ofList_toList]

namespace Target

/-- A name and a value as they stand in a query. -/
theorem param_of_part (name value : String) :
    let part := encodeParam name ++ '=' :: encodeParam value
    (decodeParam (part.takeWhile (· ≠ '=')), decodeParam ((after? '=' part).getD [])) =
      (name, value) := by
  have hname : ∀ c ∈ encodeParam name, (decide (c ≠ '=')) = true := by
    intro c hc
    rw [decide_eq_true_eq]
    rintro rfl
    exact not_mem_encodeParam (.inr rfl) name hc
  simp only
  rw [after?, List.takeWhile_append_of_pos hname, List.dropWhile_append_of_pos hname,
    List.takeWhile_cons_of_neg (by simp), List.dropWhile_cons_of_neg (by simp), List.append_nil]
  simp only [Option.getD_some, decodeParam_encodeParam]

/-- The parameters that make up a query can be read from it. -/
theorem paramsOf_queryOf {params : List (String × String)} (h : params ≠ []) :
    paramsOf (queryOf params) = params := by
  have hsplit : (queryOf params).splitOn '&' =
      params.map fun param => encodeParam param.1 ++ '=' :: encodeParam param.2 := by
    refine List.splitOn_intercalate '&' (fun part hpart hmem => ?_) (by simpa using h)
    obtain ⟨⟨name, value⟩, -, rfl⟩ := List.mem_map.mp hpart
    obtain hname | hvalue := List.mem_append.mp hmem
    · exact not_mem_encodeParam (.inl rfl) name hname
    · obtain heq | hvalue := List.mem_cons.mp hvalue
      · simp at heq
      · exact not_mem_encodeParam (.inl rfl) value hvalue
  rw [paramsOf, hsplit, List.filter_eq_self.mpr, List.map_map, List.map_congr_left (g := id),
    List.map_id]
  · rintro ⟨name, value⟩ -
    exact param_of_part name value
  · intro part hpart
    obtain ⟨⟨name, value⟩, -, rfl⟩ := List.mem_map.mp hpart
    simp

/-- A target has the parameters that it is given. -/
theorem params_withParams (t : Target) (params : List (String × String)) :
    (t.withParams params).params = params := by
  unfold Target.params withParams
  by_cases hnone : params = []
  · subst hnone
    rfl
  · rw [if_neg hnone]
    exact paramsOf_queryOf hnone

end Target

end Url

end Rollout
