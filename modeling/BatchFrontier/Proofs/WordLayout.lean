import BatchFrontier.Abi.Layout
import BatchFrontier.Proofs.HexReading

/-!
# Values are read back from words

What is written in words for a sequence of types has a length that depends on the types alone, and
is read back from the front of any longer byte string. An address may be written from any spelling;
it is read back in its checked text.
-/

namespace BatchFrontier.Abi

/-- Whether a word has room for the values of a type. -/
def Kind.IsBounded : Kind → Prop
  | .uint bits => bits ≤ 256
  | _ => True

/-- The value that is read back for a written one. -/
def canonical : Kind → Value → Value
  | .address, .text t => (Address.ofDigits? t.chars).elim (.text t) fun a => .text a.text
  | _, v => v

/-- The checked text of an address is read back as it is. -/
theorem canonical_address (a : Address) : canonical .address (.text a.text) = .text a.text := by
  simp only [canonical, Address.ofDigits?_text, Option.elim_some]

/-- A number in the range of its type is written as the word that holds it. -/
theorem encode_integer {bits : Nat} {n : Int} (h : 0 ≤ n ∧ n < 2 ^ bits) :
    encode (.uint bits) (.integer n) = some (Word.ofNat n.toNat).bytes := by
  simp only [encode, if_pos h, Word.ofNat]

/-- The checked text of an address is written as its bytes after twelve zeros. -/
theorem encode_address (a : Address) :
    encode .address (.text a.text) = some (List.replicate 12 0 ++ a.bytes) := by
  simp only [encode, Address.ofDigits?_text, Option.map_some]

/-- A word is written as it is. -/
theorem encode_word (w : Word) : encode .bytes32 (.bytes w.bytes) = some w.bytes := by
  simp only [encode, if_pos w.size]

/-- A number of words is written as the words one after the other. -/
theorem encode_words {count : Nat} {ws : List Word} (h : ws.length = count) :
    encode (.words count) (.list (ws.map fun w => .bytes w.bytes)) =
      some (ws.flatMap Word.bytes) := by
  have hpack : packWords (ws.map fun w => .bytes w.bytes) = some (ws.flatMap Word.bytes) := by
    clear h
    induction ws with
    | nil => rfl
    | cons w ws ih =>
      rw [List.map_cons, packWords, if_pos w.size, ih, List.flatMap_cons]
      rfl
  simp only [encode, List.length_map, if_pos h, hpack]

/-- A sequence of words takes 32 bytes for each. -/
theorem length_packWords {items : List Value} {bs : List UInt8} (h : packWords items = some bs) :
    bs.length = 32 * items.length := by
  induction items using packWords.induct generalizing bs with
  | case1 =>
    obtain rfl : [] = bs := by simpa [packWords] using h
    rfl
  | case2 word rest hword ih =>
    simp only [packWords, if_pos hword, Option.map_eq_some_iff] at h
    obtain ⟨tail, htail, rfl⟩ := h
    rw [List.length_append, List.length_cons, hword, ih htail]
    omega
  | case3 word rest hword => simp [packWords, hword] at h
  | case4 v rest hv => simp [packWords] at h

/-- The words of a sequence are its items. -/
theorem cutWords_packWords {items : List Value} {bs : List UInt8}
    (h : packWords items = some bs) : cutWords items.length bs = items := by
  induction items using packWords.induct generalizing bs with
  | case1 => rfl
  | case2 word rest hword ih =>
    simp only [packWords, if_pos hword, Option.map_eq_some_iff] at h
    obtain ⟨tail, htail, rfl⟩ := h
    rw [List.length_cons, cutWords, List.take_left' hword, List.drop_left' hword, ih htail]
  | case3 word rest hword => simp [packWords, hword] at h
  | case4 v rest hv => simp [packWords] at h

/-- A written value takes the bytes of its type. -/
theorem length_encode {k : Kind} {v : Value} {bs : List UInt8} (h : encode k v = some bs) :
    bs.length = k.size := by
  unfold encode at h
  split at h
  · next bits n =>
    obtain ⟨-, h⟩ := Option.ite_none_right_eq_some.mp h
    obtain rfl := Option.some.inj h
    exact BigEndian.length_ofNat 32 n.toNat
  · next t =>
    obtain ⟨a, -, rfl⟩ := Option.map_eq_some_iff.mp h
    simp [Kind.size, a.size]
  · next word =>
    obtain ⟨hword, h⟩ := Option.ite_none_right_eq_some.mp h
    obtain rfl := Option.some.inj h
    exact hword
  · next count items =>
    obtain ⟨hcount, h⟩ := Option.ite_none_right_eq_some.mp h
    rw [length_packWords h, hcount]
    rfl
  · cases h

/-- The number of bytes of a sequence of values. -/
def totalSize : List Kind → Nat
  | [] => 0
  | k :: kinds => k.size + totalSize kinds

/-- Written values take the bytes of their types. -/
theorem length_encodeAll {kinds : List Kind} {vs : List Value} {bs : List UInt8}
    (h : encodeAll kinds vs = some bs) : bs.length = totalSize kinds := by
  induction kinds, vs using encodeAll.induct generalizing bs with
  | case1 =>
    obtain rfl := Option.some.inj h
    rfl
  | case2 k kinds v vs ih =>
    simp only [encodeAll, Option.bind_eq_bind, Option.bind_eq_some_iff, Option.pure_def,
      Option.some.injEq] at h
    obtain ⟨here, hhere, tail, htail, rfl⟩ := h
    rw [List.length_append, length_encode hhere, ih htail, totalSize]
  | case3 kinds vs hnil hcons => simp [encodeAll] at h

/-- A value is read back from exactly its bytes. -/
theorem decode_encode {k : Kind} {v : Value} {bs : List UInt8} (hk : k.IsBounded)
    (h : encode k v = some bs) : decode k bs = some (canonical k v) := by
  have hsize := length_encode h
  unfold decode
  rw [if_neg (not_not.mpr hsize)]
  unfold encode at h
  split at h
  · next bits n =>
    obtain ⟨⟨hnonneg, hlt⟩, h⟩ := Option.ite_none_right_eq_some.mp h
    obtain rfl := Option.some.inj h
    have hbits : n.toNat < 2 ^ bits := by
      have hcast : ((2 ^ bits : Nat) : Int) = 2 ^ bits := by push_cast; rfl
      omega
    have hword : n.toNat < 256 ^ 32 := by
      calc n.toNat < 2 ^ bits := hbits
        _ ≤ 2 ^ 256 := Nat.pow_le_pow_right (by decide) hk
        _ = 256 ^ 32 := by decide
    have hvalue : BigEndian.toNat (BigEndian.ofNat 32 n.toNat) = n.toNat := by
      rw [BigEndian.toNat_ofNat, Nat.mod_eq_of_lt hword]
    simp only [hvalue, if_pos hbits, canonical, Int.toNat_of_nonneg hnonneg]
  · next t =>
    obtain ⟨a, ha, rfl⟩ := Option.map_eq_some_iff.mp h
    simp [Address.ofBytes?, a.size, canonical, ha]
  · next word =>
    obtain ⟨-, h⟩ := Option.ite_none_right_eq_some.mp h
    obtain rfl := Option.some.inj h
    rfl
  · next count items =>
    obtain ⟨hcount, h⟩ := Option.ite_none_right_eq_some.mp h
    simp only [canonical, ← hcount, cutWords_packWords h]
  · cases h

/-- A sequence of values is read back from its bytes, whatever follows them. -/
theorem decodeAll_encodeAll {kinds : List Kind} {vs : List Value} {bs : List UInt8}
    (hkinds : ∀ k ∈ kinds, k.IsBounded) (h : encodeAll kinds vs = some bs) (rest : List UInt8) :
    decodeAll kinds (bs ++ rest) = some (List.zipWith canonical kinds vs) := by
  induction kinds, vs using encodeAll.induct generalizing bs with
  | case1 => rfl
  | case2 k kinds v vs ih =>
    simp only [encodeAll, Option.bind_eq_bind, Option.bind_eq_some_iff, Option.pure_def,
      Option.some.injEq] at h
    obtain ⟨here, hhere, tail, htail, rfl⟩ := h
    have hsize := length_encode hhere
    have hk := hkinds k List.mem_cons_self
    have htake : (here ++ tail ++ rest).take k.size = here := by
      rw [List.append_assoc, List.take_left' hsize]
    have hdrop : (here ++ tail ++ rest).drop k.size = tail ++ rest := by
      rw [List.append_assoc, List.drop_left' hsize]
    have hrest := ih (fun k' hk' => hkinds k' (List.mem_cons_of_mem k hk')) htail
    simp only [decodeAll, htake, hdrop, decode_encode hk hhere, hrest, List.zipWith_cons_cons]
    rfl
  | case3 kinds vs hnil hcons => simp [encodeAll] at h

/-- A word that is read as an unsigned integer of some bits has as many. -/
theorem bounds_of_decode {bits : Nat} {bs : List UInt8} {v : Value}
    (h : decode (.uint bits) bs = some v) : ∃ n : Int, v = .integer n ∧ 0 ≤ n ∧ n < 2 ^ bits := by
  unfold decode at h
  split at h
  · exact nomatch h
  · simp only at h
    split at h
    · next hlt =>
      refine ⟨BigEndian.toNat bs, (Option.some.inj h).symm, Int.natCast_nonneg _, ?_⟩
      exact_mod_cast hlt
    · exact nomatch h

/-- Each value that is read has its type. -/
theorem exists_decode_of_decodeAll {kinds : List Kind} {vs : List Value} {bs : List UInt8}
    (h : decodeAll kinds bs = some vs) {i : Nat} {k : Kind} (hk : kinds[i]? = some k) :
    ∃ chunk v, vs[i]? = some v ∧ decode k chunk = some v := by
  induction kinds generalizing vs bs i with
  | nil => simp at hk
  | cons kind kinds ih =>
    simp only [decodeAll, Option.bind_eq_bind, Option.bind_eq_some_iff] at h
    obtain ⟨v, hv, rest, hrest, hvs⟩ := h
    obtain rfl := Option.some.inj hvs
    cases i with
    | zero =>
      obtain rfl : kind = k := by simpa using hk
      exact ⟨_, v, rfl, hv⟩
    | succ i => exact ih hrest (by simpa using hk)

/-- As many values are read as there are types. -/
theorem length_of_decodeAll {kinds : List Kind} {vs : List Value} {bs : List UInt8}
    (h : decodeAll kinds bs = some vs) : vs.length = kinds.length := by
  induction kinds generalizing vs bs with
  | nil =>
    obtain rfl := Option.some.inj h
    rfl
  | cons kind kinds ih =>
    simp only [decodeAll, Option.bind_eq_bind, Option.bind_eq_some_iff] at h
    obtain ⟨v, hv, rest, hrest, hvs⟩ := h
    obtain rfl := Option.some.inj hvs
    rw [List.length_cons, List.length_cons, ih hrest]

end BatchFrontier.Abi
