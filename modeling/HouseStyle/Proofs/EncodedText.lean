import HouseStyle.Text.Split
import HouseStyle.Text.Utf8
import Mathlib.Data.List.Forall2
import Mathlib.Tactic.SplitIfs

/-! Texts and the bytes that spell them.

Every text is read back from its bytes, and bytes that can be read as a text are its spelling and no other. Where
they cannot, a byte below 128 still stands for its character: it is part of no longer spelling, not even of a broken
one, so that cutting at it before or after reading comes to the same.
-/

set_option autoImplicit false
namespace HouseStyle

theorem mapM_eq_some_iff {α β : Type} {read : α → Option β} {items : List α} {results : List β} :
    items.mapM read = some results ↔ List.Forall₂ (fun item result => read item = some result) items results := by
  induction items generalizing results with
  | nil => cases results <;> simp
  | cons item items ih =>
    rw [List.mapM_cons]
    cases results with
    | nil => simp [Option.bind_eq_some_iff]
    | cons result results => simp [Option.bind_eq_some_iff, ← ih]

namespace Text

theorem toNat_ofNat_of_valid {n : Nat} (valid : n.isValidChar) : (Char.ofNat n).val.toNat = n := by
  rw [Char.ofNat, dif_pos valid]
  rfl

theorem toNat_ofNat_byte {n : Nat} (small : n < 256) : (UInt8.ofNat n).toNat = n := by
  rw [UInt8.toNat_ofNat', Nat.mod_eq_of_lt small]

theorem ofNat_eq_byte {b : UInt8} {n : Nat} (same : n = b.toNat) : UInt8.ofNat n = b := by
  rw [same, UInt8.ofNat_toNat]

namespace Utf8

/-! Leading and following bytes -/

/-- How many bytes follow a leading byte. -/
def followers (b : Nat) : Nat := if b < 0xE0 then 1 else if b < 0xF0 then 2 else 3

/-- The bytes that may stand right after a leading byte: those that make no spelling longer than need be, no
surrogate, and nothing beyond the last character. -/
def MayFollow (b x : Nat) : Prop :=
  0x80 ≤ x ∧ x ≤ 0xBF ∧ (b = 0xE0 → 0xA0 ≤ x) ∧ (b = 0xED → x ≤ 0x9F) ∧ (b = 0xF0 → 0x90 ≤ x) ∧
    (b = 0xF4 → x ≤ 0x8F)

theorem lead?_spec {b low high : UInt8} {owed : Nat} (leads : lead? b = some (owed, low, high)) :
    0xC2 ≤ b.toNat ∧ b.toNat ≤ 0xF4 ∧ owed = followers b.toNat ∧
      ∀ x : UInt8, low ≤ x ∧ x ≤ high ↔ MayFollow b.toNat x.toNat := by
  unfold lead? at leads
  simp only [Bool.and_eq_true, decide_eq_true_eq, beq_iff_eq, UInt8.le_iff_toNat_le, ← UInt8.toNat_inj,
    UInt8.reduceToNat] at leads
  split_ifs at leads <;> cases leads
  all_goals
    refine ⟨by omega, by omega, ?_, fun x => ?_⟩
    · unfold followers
      split_ifs <;> omega
    · simp only [MayFollow, UInt8.le_iff_toNat_le, UInt8.reduceToNat]
      omega

theorem lead?_isSome {b : UInt8} (least : 0xC2 ≤ b.toNat) (most : b.toNat ≤ 0xF4) : (lead? b).isSome := by
  unfold lead?
  simp only [Bool.and_eq_true, decide_eq_true_eq, beq_iff_eq, UInt8.le_iff_toNat_le, ← UInt8.toNat_inj,
    UInt8.reduceToNat]
  split_ifs <;> first | rfl | omega

theorem tail_iff (x : UInt8) : 0x80 ≤ x ∧ x ≤ 0xBF ↔ 0x80 ≤ x.toNat ∧ x.toNat ≤ 0xBF := by
  simp only [UInt8.le_iff_toNat_le, UInt8.reduceToNat]

theorem follow_zero {code n : Nat} {low high : UInt8} {rest after : Bytes} :
    follow 0 low high code rest = (some n, after) ↔ code = n ∧ rest = after := by
  rw [follow, Prod.mk.injEq, Option.some.injEq]

theorem follow_cons {owed code n : Nat} {low high b : UInt8} {rest after : Bytes} :
    follow (owed + 1) low high code (b :: rest) = (some n, after) ↔
      (low ≤ b ∧ b ≤ high) ∧ follow owed 0x80 0xBF (code * 64 + (b.toNat - 0x80)) rest = (some n, after) := by
  rw [follow, ← Bool.and_eq_true_iff.trans (and_congr decide_eq_true_iff decide_eq_true_iff)]
  split
  case isTrue inside => simp [inside]
  case isFalse outside => simp [outside]

theorem exists_of_follow {owed code n : Nat} {low high : UInt8} {rest after : Bytes}
    (followed : follow (owed + 1) low high code rest = (some n, after)) :
    ∃ b later, rest = b :: later ∧ (low ≤ b ∧ b ≤ high) ∧
      follow owed 0x80 0xBF (code * 64 + (b.toNat - 0x80)) later = (some n, after) := by
  cases rest with
  | nil => cases followed
  | cons b later => exact ⟨b, later, rfl, follow_cons.mp followed⟩

/-! What is read was the spelling -/

theorem spelling_ascii {b : UInt8} (ascii : b < 0x80) : String.utf8EncodeChar (Char.ofNat b.toNat) = [b] := by
  have small : b.toNat < 0x80 := UInt8.lt_iff_toNat_lt.mp ascii
  have value := toNat_ofNat_of_valid (n := b.toNat) (.inl (by omega))
  rw [String.utf8EncodeChar]
  simp only [value]
  rw [if_pos (by omega), UInt8.ofNat_toNat]

theorem spelling_two {b x : UInt8} (least : 0xC2 ≤ b.toNat) (most : b.toNat < 0xE0)
    (second : MayFollow b.toNat x.toNat) :
    String.utf8EncodeChar (Char.ofNat (b.toNat % 32 * 64 + (x.toNat - 0x80))) = [b, x] := by
  obtain ⟨low, high, _⟩ := second
  have value := toNat_ofNat_of_valid (n := b.toNat % 32 * 64 + (x.toNat - 0x80)) (.inl (by omega))
  rw [String.utf8EncodeChar]
  simp only [value]
  rw [if_neg (by omega), if_pos (by omega), ofNat_eq_byte (b := b) (by omega), ofNat_eq_byte (b := x) (by omega)]

theorem spelling_three {b x y : UInt8} (least : 0xE0 ≤ b.toNat) (most : b.toNat < 0xF0)
    (second : MayFollow b.toNat x.toNat) (third : 0x80 ≤ y.toNat ∧ y.toNat ≤ 0xBF) :
    String.utf8EncodeChar (Char.ofNat ((b.toNat % 16 * 64 + (x.toNat - 0x80)) * 64 + (y.toNat - 0x80))) =
      [b, x, y] := by
  obtain ⟨low, high, long, surrogate, _⟩ := second
  have value := toNat_ofNat_of_valid (n := (b.toNat % 16 * 64 + (x.toNat - 0x80)) * 64 + (y.toNat - 0x80))
    (by rw [Nat.isValidChar]; omega)
  rw [String.utf8EncodeChar]
  simp only [value]
  rw [if_neg (by omega), if_neg (by omega), if_pos (by omega), ofNat_eq_byte (b := b) (by omega),
    ofNat_eq_byte (b := x) (by omega), ofNat_eq_byte (b := y) (by omega)]

theorem spelling_four {b x y z : UInt8} (least : 0xF0 ≤ b.toNat) (most : b.toNat ≤ 0xF4)
    (second : MayFollow b.toNat x.toNat) (third : 0x80 ≤ y.toNat ∧ y.toNat ≤ 0xBF)
    (fourth : 0x80 ≤ z.toNat ∧ z.toNat ≤ 0xBF) :
    String.utf8EncodeChar (Char.ofNat
      (((b.toNat % 8 * 64 + (x.toNat - 0x80)) * 64 + (y.toNat - 0x80)) * 64 + (z.toNat - 0x80))) =
      [b, x, y, z] := by
  obtain ⟨low, high, _, _, long, beyond⟩ := second
  have value := toNat_ofNat_of_valid
    (n := ((b.toNat % 8 * 64 + (x.toNat - 0x80)) * 64 + (y.toNat - 0x80)) * 64 + (z.toNat - 0x80))
    (by rw [Nat.isValidChar]; omega)
  rw [String.utf8EncodeChar]
  simp only [value]
  rw [if_neg (by omega), if_neg (by omega), if_neg (by omega), ofNat_eq_byte (b := b) (by omega),
    ofNat_eq_byte (b := x) (by omega), ofNat_eq_byte (b := y) (by omega), ofNat_eq_byte (b := z) (by omega)]

/-- What is read as a character is the character's own spelling. -/
theorem spelling_of_next {b : UInt8} {rest after : Bytes} {c : Char} (read : next b rest = (some c, after)) :
    b :: rest = String.utf8EncodeChar c ++ after := by
  rw [next] at read
  split at read
  case isTrue ascii =>
    cases read
    rw [spelling_ascii ascii]
    rfl
  case isFalse =>
    split at read
    · cases read
    · rename_i owed low high leads
      cases followed : follow owed low high (b.toNat % Nat.pow 2 (6 - owed)) rest with | mk code left =>
      rw [followed] at read
      obtain ⟨found, rfl⟩ := Prod.mk.inj read
      obtain ⟨n, rfl, rfl⟩ := Option.map_eq_some_iff.mp found
      obtain ⟨least, most, rfl, second⟩ := lead?_spec leads
      -- one, two or three bytes follow, by the range of the leading one
      rw [followers] at followed
      split_ifs at followed
      · change follow 1 low high (b.toNat % 32) rest = _ at followed
        obtain ⟨x, rest, rfl, inside, followed⟩ := exists_of_follow followed
        obtain ⟨rfl, rfl⟩ := follow_zero.mp followed
        rw [spelling_two least (by assumption) ((second x).mp inside)]
        rfl
      · change follow 2 low high (b.toNat % 16) rest = _ at followed
        obtain ⟨x, rest, rfl, inside, followed⟩ := exists_of_follow followed
        obtain ⟨y, rest, rfl, third, followed⟩ := exists_of_follow followed
        obtain ⟨rfl, rfl⟩ := follow_zero.mp followed
        rw [spelling_three (by omega) (by assumption) ((second x).mp inside) ((tail_iff y).mp third)]
        rfl
      · change follow 3 low high (b.toNat % 8) rest = _ at followed
        obtain ⟨x, rest, rfl, inside, followed⟩ := exists_of_follow followed
        obtain ⟨y, rest, rfl, third, followed⟩ := exists_of_follow followed
        obtain ⟨z, rest, rfl, fourth, followed⟩ := exists_of_follow followed
        obtain ⟨rfl, rfl⟩ := follow_zero.mp followed
        rw [spelling_four (by omega) most ((second x).mp inside) ((tail_iff y).mp third) ((tail_iff z).mp fourth)]
        rfl

theorem encode_of_characters {content : Bytes} {text : List Char} (read : characters content = text.map some) :
    encode text = content := by
  fun_induction characters content generalizing text with
  | case1 =>
    rw [List.map_eq_nil_iff.mp read.symm]
    rfl
  | case2 b rest ih =>
    obtain ⟨c, later, rfl, first, others⟩ := List.map_eq_cons_iff.mp read.symm
    rw [spelling_of_next (Prod.ext first.symm rfl), encode, List.flatMap_cons, ← encode, ih others.symm]

/-! A spelling is read -/

/-- A leading byte, whose last binary digits are those of `code`, is read with the bytes that may follow it. -/
theorem next_of_lead (owed code : Nat) {b : UInt8} (least : 0xC2 ≤ b.toNat) (most : b.toNat ≤ 0xF4)
    {rest after : Bytes} {n : Nat} (count : followers b.toNat = owed) (digits : b.toNat % Nat.pow 2 (6 - owed) = code)
    (followed : ∀ low high, (∀ x : UInt8, low ≤ x ∧ x ≤ high ↔ MayFollow b.toNat x.toNat) →
      follow owed low high code rest = (some n, after)) :
    next b rest = (some (Char.ofNat n), after) := by
  obtain ⟨⟨read, low, high⟩, leads⟩ := Option.isSome_iff_exists.mp (lead?_isSome least most)
  obtain ⟨_, _, rfl, second⟩ := lead?_spec leads
  have wide : ¬b < 0x80 := by
    rw [UInt8.lt_iff_toNat_lt]
    exact Nat.not_lt.mpr (Nat.le_trans (by decide) least)
  rw [next, if_neg wide, leads]
  simp only [count, digits, followed low high second, Option.map_some]

theorem characters_cons {b : UInt8} {rest after : Bytes} {c : Option Char} (read : next b rest = (c, after)) :
    characters (b :: rest) = c :: characters after := by
  rw [characters, read]

theorem characters_ascii {b : UInt8} (ascii : b < 0x80) (rest : Bytes) :
    characters (b :: rest) = some (Char.ofNat b.toNat) :: characters rest :=
  characters_cons (by rw [next, if_pos ascii])

theorem characters_spelling (c : Char) (rest : Bytes) :
    characters (String.utf8EncodeChar c ++ rest) = some c :: characters rest := by
  have valid : c.val.toNat.isValidChar := c.valid
  have value : Char.ofNat c.val.toNat = c := Char.ofNat_toNat c
  rw [Nat.isValidChar] at valid
  rw [String.utf8EncodeChar]
  generalize c.val.toNat = v at valid value
  subst value
  have second := toNat_ofNat_byte (n := v / 4096 % 64 + 128) (by omega)
  have third := toNat_ofNat_byte (n := v / 64 % 64 + 128) (by omega)
  have last := toNat_ofNat_byte (n := v % 64 + 128) (by omega)
  -- one to four bytes, by the size of the number
  split_ifs
  · have first := toNat_ofNat_byte (n := v) (by omega)
    rw [List.singleton_append, characters_ascii, first]
    rw [UInt8.lt_iff_toNat_lt, first]
    exact Nat.lt_succ_of_le (by assumption)
  · have first := toNat_ofNat_byte (n := v / 64 % 32 + 192) (by omega)
    refine characters_cons (next_of_lead 1 (v / 64) (by omega) (by omega) ?_ ?_ fun low high may => ?_)
    · rw [followers, if_pos (by omega)]
    · change _ % 32 = _
      omega
    · exact follow_cons.mpr ⟨(may _).mpr (by rw [MayFollow]; omega), follow_zero.mpr ⟨by omega, rfl⟩⟩
  · have first := toNat_ofNat_byte (n := v / 4096 % 16 + 224) (by omega)
    refine characters_cons
      (next_of_lead 2 (v / 4096) (by omega) (by omega) ?_ ?_ fun low high may => ?_)
    · rw [followers, if_neg (by omega), if_pos (by omega)]
    · change _ % 16 = _
      omega
    · exact follow_cons.mpr ⟨(may _).mpr (by rw [MayFollow]; omega),
        follow_cons.mpr ⟨(tail_iff _).mpr (by omega), follow_zero.mpr ⟨by omega, rfl⟩⟩⟩
  · have first := toNat_ofNat_byte (n := v / 262144 % 8 + 240) (by omega)
    refine characters_cons
      (next_of_lead 3 (v / 262144) (by omega) (by omega) ?_ ?_ fun low high may => ?_)
    · rw [followers, if_neg (by omega), if_neg (by omega)]
    · change _ % 8 = _
      omega
    · exact follow_cons.mpr ⟨(may _).mpr (by rw [MayFollow]; omega),
        follow_cons.mpr ⟨(tail_iff _).mpr (by omega),
          follow_cons.mpr ⟨(tail_iff _).mpr (by omega), follow_zero.mpr ⟨by omega, rfl⟩⟩⟩⟩

theorem characters_encode (text : List Char) : characters (encode text) = text.map some := by
  induction text with
  | nil => rw [encode, List.flatMap_nil, characters, List.map_nil]
  | cons c rest ih => rw [encode, List.flatMap_cons, characters_spelling, ← encode, ih, List.map_cons]

/-! Bytes below 128 -/

theorem follow_append {b : UInt8} {owed code : Nat} {low high : UInt8} (barred : ¬(low ≤ b ∧ b ≤ high))
    (ascii : b < 0x80) (front rest : Bytes) :
    follow owed low high code (front ++ b :: rest) =
      ((follow owed low high code front).1, (follow owed low high code front).2 ++ b :: rest) := by
  fun_induction follow owed low high code front with
  | case1 => rw [follow]
  | case2 owed low high code =>
    have outside : (decide (low ≤ b) && decide (b ≤ high)) = false := by simpa using barred
    rw [List.nil_append, follow, outside]
    rfl
  | case3 owed low high code x front inside ih =>
    have later : ¬((0x80 : UInt8) ≤ b ∧ b ≤ 0xBF) := fun within => UInt8.not_lt.mpr within.1 ascii
    rw [List.cons_append, follow, if_pos inside, ih later]
  | case4 owed low high code x front outside =>
    rw [List.cons_append, follow, if_neg outside]

theorem next_append {b : UInt8} (ascii : b < 0x80) (x : UInt8) (front rest : Bytes) :
    next x (front ++ b :: rest) = ((next x front).1, (next x front).2 ++ b :: rest) := by
  rw [next, next]
  split
  · rfl
  · split
    · rfl
    · rename_i owed low high leads
      have barred : ¬(low ≤ b ∧ b ≤ high) := by
        rw [(lead?_spec leads).2.2.2 b]
        exact fun may => Nat.not_lt.mpr may.1 (UInt8.lt_iff_toNat_lt.mp ascii)
      rw [follow_append barred ascii]

theorem characters_append {b : UInt8} (ascii : b < 0x80) (front rest : Bytes) :
    characters (front ++ b :: rest) = characters front ++ some (Char.ofNat b.toNat) :: characters rest := by
  fun_induction characters front with
  | case1 => exact characters_ascii ascii rest
  | case2 x front ih =>
    rw [List.cons_append, List.cons_append, ← ih]
    exact characters_cons (next_append ascii x front rest)

theorem mem_of_mem_characters {b : UInt8} (ascii : b < 0x80) {content : Bytes}
    (member : some (Char.ofNat b.toNat) ∈ characters content) : b ∈ content := by
  fun_induction characters content with
  | case1 => cases member
  | case2 x rest ih =>
    rcases List.mem_cons.mp member with first | later
    · have spelled := spelling_of_next (Prod.ext first.symm rfl)
      rw [spelling_ascii ascii] at spelled
      rw [spelled]
      exact List.mem_append_left _ List.mem_cons_self
    · exact List.mem_cons_of_mem x ((next_suffix x rest).subset (ih later))

end Utf8

/-! Texts -/

theorem decode?_eq_some_iff {content : Bytes} {text : String} :
    decode? content = some text ↔ content = bytes text := by
  have spelled (chars : List Char) :
      (Utf8.characters content).mapM id = some chars ↔ Utf8.characters content = chars.map some := by
    rw [mapM_eq_some_iff, ← List.forall₂_map_right_iff (f := some), ← List.forall₂_eq_eq_eq]
    rfl
  rw [decode?, Option.map_eq_some_iff]
  constructor
  · rintro ⟨chars, read, rfl⟩
    rw [bytes, String.toList_ofList, Utf8.encode_of_characters ((spelled chars).mp read)]
  · rintro rfl
    exact ⟨text.toList, (spelled _).mpr (Utf8.characters_encode _), String.ofList_toList⟩

@[simp] theorem decode?_bytes (text : String) : decode? (bytes text) = some text :=
  decode?_eq_some_iff.mpr rfl

@[simp] theorem decodeLossy_bytes (text : String) : decodeLossy (bytes text) = text := by
  rw [decodeLossy, bytes, Utf8.characters_encode, List.map_map]
  simp [Function.comp_def]

theorem bytes_injective {first second : String} (same : bytes first = bytes second) : first = second := by
  rw [← decodeLossy_bytes first, same, decodeLossy_bytes]

theorem toList_decodeLossy_append {b : UInt8} (ascii : b < 0x80) (front rest : Bytes) :
    (decodeLossy (front ++ b :: rest)).toList =
      (decodeLossy front).toList ++ Char.ofNat b.toNat :: (decodeLossy rest).toList := by
  simp [decodeLossy, Utf8.characters_append ascii]

/-- A byte below 128 and its character stand for each other. -/
theorem mem_decodeLossy_iff {b : UInt8} (ascii : b < 0x80) (content : Bytes) :
    Char.ofNat b.toNat ∈ (decodeLossy content).toList ↔ b ∈ content := by
  constructor
  · intro member
    rw [decodeLossy, String.toList_ofList] at member
    obtain ⟨read, inside, shown⟩ := List.mem_map.mp member
    cases read with
    | none =>
      -- what stands in for a broken part lies above
      have spelled := Utf8.spelling_ascii ascii
      rw [← shown] at spelled
      exact absurd (congrArg List.length spelled) (by rw [List.length_singleton]; decide)
    | some c =>
      rw [Option.getD_some] at shown
      exact Utf8.mem_of_mem_characters ascii (shown ▸ inside)
  · intro member
    obtain ⟨front, rest, rfl⟩ := List.append_of_mem member
    rw [toList_decodeLossy_append ascii]
    exact List.mem_append_right _ List.mem_cons_self

theorem mem_bytes_iff {b : UInt8} (ascii : b < 0x80) (text : String) :
    b ∈ bytes text ↔ Char.ofNat b.toNat ∈ text.toList := by
  rw [← mem_decodeLossy_iff ascii, decodeLossy_bytes]

end Text
end HouseStyle
