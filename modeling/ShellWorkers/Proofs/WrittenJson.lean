import ShellWorkers.Json.Reader
import ShellWorkers.Json.Writer

/-!
# What is written is read back

A value without faults and without numbers is read back from its own text, whatever its strings
hold: `read_write`.

* `readStringFrom_writtenChar`  one character of a string, escaped or not, is read as itself;
* `readString_written`          a string is read up to its closing quote;
* `Plain`                       values without faults and numbers;
* `readValue_written`           a plain value is read, and what stands behind it is left.
-/

namespace ShellWorkers.Json

/-! ## strings -/

/-- the two digits of a control character are read as its number -/
theorem hexFour?_control (n : Nat) (h : n < 0x20) :
    hexFour? '0' '0' (hexDigitChar (n / 16)) (hexDigitChar (n % 16)) = some n := by
  revert n
  decide

theorem readStringFrom_writtenChar (read : List Char) (c : Char) (rest : List Char) :
    readStringFrom read (writtenChar c ++ rest) = readStringFrom (c :: read) rest := by
  unfold writtenChar
  split
  · next h => subst h; simp [readStringFrom, escaped?]
  split
  · next h => subst h; simp [readStringFrom, escaped?]
  split
  · next h => subst h; simp [readStringFrom, escaped?]
  split
  · next h => subst h; simp [readStringFrom, escaped?]
  split
  · next h => subst h; simp [readStringFrom, escaped?]
  split
  · next h => subst h; simp [readStringFrom, escaped?]
  split
  · next h => subst h; simp [readStringFrom, escaped?]
  split
  · next h =>
    have hlow : ¬(0xDC00 ≤ c.toNat ∧ c.toNat ≤ 0xDFFF) := by omega
    have hhigh : ¬(0xD800 ≤ c.toNat ∧ c.toNat ≤ 0xDBFF) := by omega
    simp [readStringFrom, hexFour?_control c.toNat h, hlow, hhigh, Char.ofNat_toNat]
  · next hquote hslash _ _ _ _ _ hcontrol =>
    -- neither a quote nor a backslash, so none of the branches before the last one is taken
    rw [List.singleton_append, readStringFrom]
    · exact if_neg hcontrol
    · exact hquote
    · exact fun h _ => hslash h
    · exact fun _ _ _ _ _ h _ => hslash h
    · exact fun _ h _ => hslash h
    · exact fun _ _ h _ => hslash h

/-- the characters of a string are read up to its closing quote -/
theorem readStringFrom_written (read cs rest : List Char) :
    readStringFrom read (cs.flatMap writtenChar ++ '"' :: rest) =
      .ok (String.ofList (read.reverse ++ cs), rest) := by
  induction cs generalizing read with
  | nil => simp [readStringFrom]
  | cons c cs ih =>
    rw [List.flatMap_cons, List.append_assoc, readStringFrom_writtenChar, ih]
    simp

theorem readString_written (s : String) (rest : List Char) :
    readString (s.toList.flatMap writtenChar ++ '"' :: rest) = .ok (s, rest) := by
  rw [readString, readStringFrom_written]
  simp

/-! ## plain values -/

mutual

/-- a value without faults and numbers -/
def plain : Json → Bool
  | .broken _ => false
  | .number _ => false
  | .list items => items.plain
  | .object members => members.plain
  | _ => true

def Items.plain : Items → Bool
  | .closed => true
  | .broken _ => false
  | .next item rest => item.plain && rest.plain

def Members.plain : Members → Bool
  | .closed => true
  | .broken _ => false
  | .next _ value rest => value.plain && rest.plain

end

mutual

/-- how many lists and objects stand inside one another -/
def depth : Json → Nat
  | .list items => items.depth + 1
  | .object members => members.depth + 1
  | _ => 0

def Items.depth : Items → Nat
  | .next item rest => max item.depth rest.depth
  | _ => 0

def Members.depth : Members → Nat
  | .next _ value rest => max value.depth rest.depth
  | _ => 0

end

/-- the text of a plain value starts with a character that ends no list and is no blank -/
theorem exists_written_eq {v : Json} (hv : v.plain = true) :
    ∃ c cs, v.written = c :: cs ∧ isGap c = false ∧ c ≠ ']' := by
  cases v with
  | broken fault => exact nomatch hv
  | number n => exact nomatch hv
  | bool b => cases b <;> exact ⟨_, _, rfl, by decide, by decide⟩
  | _ => exact ⟨_, _, rfl, by decide, by decide⟩

theorem skipGap_cons {c : Char} (hc : isGap c = false) (cs : List Char) :
    skipGap (c :: cs) = c :: cs := by
  rw [skipGap, List.dropWhile_cons, hc]
  rfl

/-! ## one step of a list or an object -/

section Steps

variable (fuel room : Nat) {c : Char} {cs : List Char}

theorem readValue_string (s : String) (rest : List Char) :
    readValue (fuel + 1) room (writtenString s ++ rest) = (.string s, some rest) := by
  simp [writtenString, readValue, skipGap, isGap, ofScalar, readString_written]

theorem readValue_list (cs : List Char) :
    readValue (fuel + 1) (room + 1) ('[' :: cs) =
      (.list (readFirstItem fuel room cs).1, (readFirstItem fuel room cs).2) := by
  simp [readValue, skipGap, isGap]

theorem readFirstItem_closed (rest : List Char) :
    readFirstItem (fuel + 1) room (']' :: rest) = (.closed, some rest) := by
  simp [readFirstItem, skipGap, isGap]

theorem readFirstItem_item (hgap : isGap c = false) (hend : c ≠ ']') :
    readFirstItem (fuel + 1) room (c :: cs) = readItem fuel room (c :: cs) := by
  rw [readFirstItem, skipGap_cons hgap]
  simp [hend]

theorem readMoreItems_closed (rest : List Char) :
    readMoreItems (fuel + 1) room (']' :: rest) = (.closed, some rest) := by
  simp [readMoreItems, skipGap, isGap]

theorem readMoreItems_item (hgap : isGap c = false) (hend : c ≠ ']') :
    readMoreItems (fuel + 1) room (',' :: c :: cs) = readItem fuel room (c :: cs) := by
  rw [readMoreItems, skipGap_cons (by decide)]
  simp only [skipGap_cons hgap]
  simp [hend]

theorem readValue_object (cs : List Char) :
    readValue (fuel + 1) (room + 1) ('{' :: cs) =
      (.object (readFirstMember fuel room cs).1, (readFirstMember fuel room cs).2) := by
  simp [readValue, skipGap, isGap]

theorem readFirstMember_closed (rest : List Char) :
    readFirstMember (fuel + 1) room ('}' :: rest) = (.closed, some rest) := by
  simp [readFirstMember, skipGap, isGap]

theorem readFirstMember_member (cs : List Char) :
    readFirstMember (fuel + 1) room ('"' :: cs) = readMember fuel room cs := by
  simp [readFirstMember, skipGap, isGap]

theorem readMoreMembers_closed (rest : List Char) :
    readMoreMembers (fuel + 1) room ('}' :: rest) = (.closed, some rest) := by
  simp [readMoreMembers, skipGap, isGap]

theorem readMoreMembers_member (cs : List Char) :
    readMoreMembers (fuel + 1) room (',' :: '"' :: cs) = readMember fuel room cs := by
  simp [readMoreMembers, skipGap, isGap]

end Steps

/-! ## lists and objects -/

theorem written_list (items : Items) : (list items).written = '[' :: items.written ++ [']'] := rfl

theorem written_object (members : Members) :
    (object members).written = '{' :: members.written ++ ['}'] := rfl

/-- the items after another one, with the comma before them -/
def Items.separated : Items → List Char
  | .closed => []
  | .broken _ => [',']
  | .next item more => ',' :: (Items.next item more).written

theorem Items.written_next (item : Json) (more : Items) :
    (Items.next item more).written = item.written ++ more.separated := by
  cases more with
  | closed => exact (List.append_nil _).symm
  | broken fault => rfl
  | next second more => rfl

/-- the members after another one, with the comma before them -/
def Members.separated : Members → List Char
  | .closed => []
  | .broken _ => [',']
  | .next key value more => ',' :: (Members.next key value more).written

theorem Members.written_next (key : String) (value : Json) (more : Members) :
    (Members.next key value more).written =
      writtenString key ++ ':' :: value.written ++ more.separated := by
  cases more with
  | closed => exact (List.append_nil _).symm
  | broken fault => rfl
  | next key' value' more => rfl

mutual

/-- a plain value is read from its text, and what stands behind it is left -/
theorem readValue_written (v : Json) (fuel room : Nat) (rest : List Char)
    (hv : v.plain = true) (hroom : v.depth ≤ room) (hfuel : 2 * v.written.length ≤ fuel) :
    readValue fuel room (v.written ++ rest) = (v, some rest) := by
  obtain ⟨c, cs, hc, -⟩ := exists_written_eq hv
  have hlength : 0 < v.written.length := by rw [hc, List.length_cons]; omega
  obtain ⟨fuel, rfl⟩ : ∃ k, fuel = k + 1 := ⟨fuel - 1, by omega⟩
  match v with
  | .broken fault => exact nomatch hv
  | .number n => exact nomatch hv
  | .null => simp [written, readValue, skipGap, isGap, ofWord, ofScalar, readWord, Except.map]
  | .bool true =>
    simp [written, readValue, skipGap, isGap, ofWord, ofScalar, readWord, Except.map]
  | .bool false =>
    simp [written, readValue, skipGap, isGap, ofWord, ofScalar, readWord, Except.map]
  | .string s => exact readValue_string fuel room s rest
  | .list items =>
    rw [written_list, List.length_append, List.length_cons, List.length_singleton] at hfuel
    rw [depth] at hroom
    obtain ⟨fuel, rfl⟩ : ∃ k, fuel = k + 1 := ⟨fuel - 1, by omega⟩
    obtain ⟨room, rfl⟩ : ∃ k, room = k + 1 := ⟨room - 1, by omega⟩
    have hfirst : readFirstItem (fuel + 1) room (items.written ++ ']' :: rest) =
        (items, some rest) := by
      match items with
      | .closed => exact readFirstItem_closed fuel room rest
      | .broken fault => exact nomatch hv
      | .next item more =>
        have hitems := readItem_written item more fuel room rest hv (by omega) (by omega)
        obtain ⟨c, cs, hc, hgap, hend⟩ := exists_written_eq (Bool.and_eq_true_iff.mp hv).1
        rw [Items.written_next, hc, List.append_assoc, List.cons_append] at hitems ⊢
        rw [readFirstItem_item fuel room hgap hend, hitems]
    rw [written_list, List.cons_append, List.cons_append, List.append_assoc, List.singleton_append,
      readValue_list, hfirst]
  | .object members =>
    rw [written_object, List.length_append, List.length_cons, List.length_singleton] at hfuel
    rw [depth] at hroom
    obtain ⟨fuel, rfl⟩ : ∃ k, fuel = k + 1 := ⟨fuel - 1, by omega⟩
    obtain ⟨room, rfl⟩ : ∃ k, room = k + 1 := ⟨room - 1, by omega⟩
    have hfirst : readFirstMember (fuel + 1) room (members.written ++ '}' :: rest) =
        (members, some rest) := by
      match members with
      | .closed => exact readFirstMember_closed fuel room rest
      | .broken fault => exact nomatch hv
      | .next key value more =>
        obtain ⟨cs, hc, hmembers⟩ :=
          readMember_written key value more fuel room rest hv (by omega) (by omega)
        rw [hc, List.cons_append, readFirstMember_member, hmembers]
    rw [written_object, List.cons_append, List.cons_append, List.append_assoc,
      List.singleton_append, readValue_object, hfirst]
termination_by fuel

/-- the items of a list that is not empty are read up to its bracket -/
theorem readItem_written (item : Json) (more : Items) (fuel room : Nat) (rest : List Char)
    (hv : (Items.next item more).plain = true) (hroom : (Items.next item more).depth ≤ room)
    (hfuel : 2 * (Items.next item more).written.length + 1 ≤ fuel) :
    readItem fuel room ((Items.next item more).written ++ ']' :: rest) =
      (.next item more, some rest) := by
  obtain ⟨hitem, hmore⟩ := Bool.and_eq_true_iff.mp hv
  obtain ⟨c, cs, hc, -⟩ := exists_written_eq hitem
  have hlength : 0 < item.written.length := by rw [hc, List.length_cons]; omega
  rw [Items.depth] at hroom
  rw [Items.written_next, List.length_append] at hfuel
  obtain ⟨fuel, rfl⟩ : ∃ k, fuel = k + 2 := ⟨fuel - 2, by omega⟩
  have hfirst := readValue_written item (fuel + 1) room (more.separated ++ ']' :: rest) hitem
    (by omega) (by omega)
  have hrest : readMoreItems (fuel + 1) room (more.separated ++ ']' :: rest) =
      (more, some rest) := by
    match more with
    | .closed => exact readMoreItems_closed fuel room rest
    | .broken fault => exact nomatch hmore
    | .next second more =>
      rw [Items.separated, List.length_cons] at hfuel
      have hitems := readItem_written second more fuel room rest hmore (by omega) (by omega)
      obtain ⟨c, cs, hc, hgap, hend⟩ := exists_written_eq (Bool.and_eq_true_iff.mp hmore).1
      rw [Items.separated, List.cons_append]
      rw [Items.written_next, hc, List.append_assoc, List.cons_append] at hitems ⊢
      rw [readMoreItems_item fuel room hgap hend, hitems]
  rw [Items.written_next, List.append_assoc, readItem, hfirst]
  simp [hrest]
termination_by fuel

/-- the members of an object that is not empty are read up to its brace, after the first quote -/
theorem readMember_written (key : String) (value : Json) (more : Members) (fuel room : Nat)
    (rest : List Char) (hv : (Members.next key value more).plain = true)
    (hroom : (Members.next key value more).depth ≤ room)
    (hfuel : 2 * (Members.next key value more).written.length + 1 ≤ fuel) :
    ∃ cs, (Members.next key value more).written = '"' :: cs ∧
      readMember fuel room (cs ++ '}' :: rest) = (.next key value more, some rest) := by
  obtain ⟨hvalue, hmore⟩ := Bool.and_eq_true_iff.mp hv
  obtain ⟨c, cs, hc, hgap, -⟩ := exists_written_eq hvalue
  rw [Members.depth] at hroom
  rw [Members.written_next, List.length_append, List.length_append, List.length_cons] at hfuel
  obtain ⟨fuel, rfl⟩ : ∃ k, fuel = k + 2 := ⟨fuel - 2, by omega⟩
  have hfirst := readValue_written value (fuel + 1) room (more.separated ++ '}' :: rest) hvalue
    (by omega) (by omega)
  have hrest : readMoreMembers (fuel + 1) room (more.separated ++ '}' :: rest) =
      (more, some rest) := by
    match more with
    | .closed => exact readMoreMembers_closed fuel room rest
    | .broken fault => exact nomatch hmore
    | .next key' value' more =>
      rw [Members.separated, List.length_cons] at hfuel
      obtain ⟨cs, hc, hmembers⟩ :=
        readMember_written key' value' more fuel room rest hmore (by omega) (by omega)
      rw [Members.separated, hc, List.cons_append, List.cons_append, readMoreMembers_member,
        hmembers]
  refine ⟨key.toList.flatMap writtenChar ++ '"' :: ':' :: value.written ++ more.separated, ?_, ?_⟩
  · rw [Members.written_next, writtenString]
    simp
  · have hkey := readString_written key (':' :: (value.written ++ (more.separated ++ '}' :: rest)))
    rw [List.append_assoc, List.append_assoc, List.cons_append, List.cons_append, readMember, hkey]
    simp [skipGap_cons, isGap, hfirst, hrest]
termination_by fuel

end

/-! ## documents -/

mutual

/-- a plain value has no faults -/
theorem intact_of_plain : (v : Json) → v.plain = true → v.intact = true
  | .broken _, h => nomatch h
  | .number _, h => nomatch h
  | .null, _ => rfl
  | .bool _, _ => rfl
  | .string _, _ => rfl
  | .list items, h => Items.intact_of_plain items h
  | .object members, h => Members.intact_of_plain members h

theorem Items.intact_of_plain : (items : Items) → items.plain = true → items.intact = true
  | .closed, _ => rfl
  | .broken _, h => nomatch h
  | .next item rest, h => by
    obtain ⟨hitem, hrest⟩ := Bool.and_eq_true_iff.mp h
    exact Bool.and_eq_true_iff.mpr
      ⟨Json.intact_of_plain item hitem, Items.intact_of_plain rest hrest⟩

theorem Members.intact_of_plain :
    (members : Members) → members.plain = true → members.intact = true
  | .closed, _ => rfl
  | .broken _, h => nomatch h
  | .next key value rest, h => by
    obtain ⟨hvalue, hrest⟩ := Bool.and_eq_true_iff.mp h
    exact Bool.and_eq_true_iff.mpr
      ⟨Json.intact_of_plain value hvalue, Members.intact_of_plain rest hrest⟩

end

/-- a plain value that is not too deep is the document that its text holds -/
theorem read_write {v : Json} (hv : v.plain = true) (hdepth : v.depth ≤ depthLimit) :
    read v.write = ⟨v, none⟩ := by
  have hread := readValue_written v (fuelFor v.written) depthLimit [] hv hdepth
    (by rw [fuelFor]; omega)
  rw [List.append_nil] at hread
  rw [read, write, String.toList_ofList]
  simp [hread, skipGap]

end ShellWorkers.Json
