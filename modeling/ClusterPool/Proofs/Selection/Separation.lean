import Mathlib.Data.List.Basic
import ClusterPool.Selection

/-! What a rank is taken from. The byte that closes a name in it is in no text, so that the first of
these bytes is where the identity ends. Hence whatever is asked for by different identities, or for
clusters of different names, is ranked by different bytes. -/
namespace ClusterPool.Selection

/-! The bytes of texts. -/

private theorem toList_loop (bytes : ByteArray) (index : Nat) (before : List UInt8) :
    ByteArray.toList.loop bytes index before = before.reverse ++ bytes.data.toList.drop index := by
  induction index, before using ByteArray.toList.loop.induct bytes with
  | case1 index before inside ih =>
    have first : bytes.data.toList.drop index =
        bytes.get! index :: bytes.data.toList.drop (index + 1) := by
      rw [List.drop_eq_getElem_cons inside, Array.getElem_toList, ByteArray.get!,
        getElem!_pos bytes.data index inside]
    rw [ByteArray.toList.loop, if_pos inside, ih, first, List.reverse_cons, List.append_assoc]
    rfl
  | case2 index before outside =>
    have nothing : bytes.data.toList.drop index = [] :=
      List.drop_of_length_le (Nat.not_lt.mp outside)
    rw [ByteArray.toList.loop, if_neg outside, nothing, List.append_nil]

private theorem toList_eq (bytes : ByteArray) : bytes.toList = bytes.data.toList := toList_loop bytes 0 []

/-- The bytes of a text are those of its characters. -/
private theorem toUTF8_toList (text : String) :
    text.toUTF8.toList = text.toList.flatMap String.utf8EncodeChar := by
  rw [toList_eq, String.toUTF8_eq_toByteArray, ← String.utf8Encode_toList, List.utf8Encode,
    List.toList_data_toByteArray]

private theorem toUTF8_toList_inj {text other : String} :
    text.toUTF8.toList = other.toUTF8.toList ↔ text = other := by
  rw [toList_eq, toList_eq, Array.toList_inj, ← ByteArray.ext_iff, String.toUTF8_eq_toByteArray,
    String.toUTF8_eq_toByteArray, String.toByteArray_inj]

/-- The first byte of a character is at most 0xf7, and those that follow are at most 0xbf. -/
private theorem utf8EncodeChar_lt (character : Char) :
    ∀ byte ∈ String.utf8EncodeChar character, byte.toNat < 0xff := by
  unfold String.utf8EncodeChar
  dsimp only
  split_ifs <;>
    simp only [List.forall_mem_cons, List.not_mem_nil, UInt8.toNat_ofNat', false_imp_iff, implies_true,
      and_true] <;> omega

/-- No text contains the byte that closes a name. -/
theorem ne_mark_of_mem {text : String} {byte : UInt8} (member : byte ∈ text.toUTF8.toList) :
    byte ≠ 0xff := by
  rw [toUTF8_toList] at member
  obtain ⟨character, _, part⟩ := List.mem_flatMap.mp member
  rintro rfl
  exact absurd (utf8EncodeChar_lt character _ part) (by decide)

/-- What stands before the first such byte is the identity. -/
theorem takeWhile_rankInput (identity cluster : String) :
    (rankInput identity cluster).takeWhile (· ≠ 0xff) = identity.toUTF8.toList := by
  rw [rankInput, List.takeWhile_append_of_pos fun byte member =>
    decide_eq_true (ne_mark_of_mem member), List.takeWhile_cons_of_neg (by simp), List.append_nil]

theorem rankInput_inj {identity other cluster rival : String} :
    rankInput identity cluster = rankInput other rival ↔ identity = other ∧ cluster = rival := by
  constructor
  · intro same
    have identities : identity.toUTF8.toList = other.toUTF8.toList := by
      rw [← takeWhile_rankInput identity cluster, same, takeWhile_rankInput]
    rw [rankInput, rankInput, identities] at same
    have rest := (List.cons.inj (List.append_cancel_left same)).2
    exact ⟨toUTF8_toList_inj.mp identities, toUTF8_toList_inj.mp (List.append_cancel_right rest)⟩
  · rintro ⟨rfl, rfl⟩
    rfl

/-- Ranks are taken from bytes that tell all identities and all clusters apart. So a rank is shared
with another identity or another cluster exactly if the hash of two different inputs is the same. -/
theorem rank_distinguishes (identity other cluster rival : String) :
    (rankInput identity cluster = rankInput other rival ↔ identity = other ∧ cluster = rival) ∧
    (rank identity cluster = rank other rival ↔ (identity = other ∧ cluster = rival) ∨
      (rankInput identity cluster ≠ rankInput other rival ∧
        SipHash.hash (rankInput identity cluster) = SipHash.hash (rankInput other rival))) := by
  refine ⟨rankInput_inj, ?_⟩
  rw [← rankInput_inj]
  constructor
  · intro same
    by_cases input : rankInput identity cluster = rankInput other rival
    · exact .inl input
    · exact .inr ⟨input, same⟩
  · rintro (input | ⟨_, same⟩)
    · exact congrArg SipHash.hash input
    · exact same

/-- A character that moves from the identity to the cluster is noticed. -/
example : rankInput "a" "bc" ≠ rankInput "ab" "c" := by
  rw [ne_eq, rankInput_inj]
  decide

end ClusterPool.Selection
