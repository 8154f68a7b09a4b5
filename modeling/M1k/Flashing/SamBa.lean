import M1k.Library.Bytes
import M1k.Library.HexText
import Mathlib.Data.List.DropRight
import Mathlib.Data.List.Range
import Mathlib.Data.Nat.Digits.Defs

/-! # The flashing script

`sam-ba.py` writes a firmware image to the flash through the boot monitor of the processor.  Each
command is a text: `W`, an address, a comma, a value and `#` write a word.  The words of a page go
to its latch first; then a command to the flash controller has the page written. -/

namespace M1k.SamBa

open Library.HexText

/-! ## Python -/

/-- `hex` -/
def hex (n : Nat) : List Char := '0' :: 'x' :: Nat.toDigits 16 n

def lstrip (chars text : List Char) : List Char := text.dropWhile fun c => chars.contains c

def rstrip (chars text : List Char) : List Char := text.rdropWhile fun c => chars.contains c

def zfill (width : Nat) (text : List Char) : List Char :=
  List.replicate (width - text.length) '0' ++ text

def upper (text : List Char) : List Char := text.map Char.toUpper

/-! ## The script -/

def flashBase : Nat := 0x80000

/-- `raw`, with zeros up to the next end of a page.  An image that ends with a page gets another. -/
def padded (raw : List UInt8) : List UInt8 := raw ++ List.replicate (256 - raw.length % 256) 0

/-- `fw.peek("<L")` at `bytepos`: four bytes, the lowest first -/
def peek (fw : List UInt8) (bytepos : Nat) : Nat :=
  Nat.ofDigits 256 (((fw.drop bytepos).take 4).map UInt8.toNat)

/-- The command that writes the word at `pos` -/
def wordCommand (fw : List UInt8) (pos : Nat) : List Char :=
  let addr := zfill 8 (rstrip ['L'] (lstrip ['0', 'x'] (hex (flashBase + pos))))
  let data := zfill 8 (rstrip ['L'] (lstrip ['0', 'x'] (hex (peek fw pos))))
  upper ("W".toList ++ addr ++ ",".toList ++ data ++ "#".toList)

/-- The command that has the flash controller write a page -/
def pageCommand (page : Nat) : List Char :=
  "W400E0804,5A00".toList ++ zfill 2 (lstrip ['0', 'x'] (hex page)) ++ "03#".toList

/-- The device, as far as it can end the script. -/
structure Device where
  /-- The exchange over the word at this position raises an exception. -/
  raises : Nat → Bool
  /-- `page_status` of this page as a number, if the reply is one -/
  pageStatus : Nat → Option Nat

/-- The loop over the words.  The flag tells whether it came to its end. -/
def writeWords (device : Device) (fw : List UInt8) : List Nat → Nat → List (List Char) × Bool
  | [], _ => ([], true)
  | pos :: later, page =>
    let cmd := wordCommand fw pos
    -- an exception of the exchange ends the loop, with the command already sent
    if device.raises pos then ([cmd], false)
    -- the last word of a page: the page is written, and its status asked for
    else if pos &&& 0xFC = 0xFC then
      let sent := [cmd, pageCommand page, "w400E0808,4#".toList]
      if device.pageStatus page = some 1 then
        (sent ++ (writeWords device fw later (page + 1)).1, (writeWords device fw later (page + 1)).2)
      else (sent, false)
    else (cmd :: (writeWords device fw later page).1, (writeWords device fw later page).2)

/-- `range(0, int(fw.length/8), 4)` -/
def positions (fw : List UInt8) : List Nat := (List.range ((fw.length + 3) / 4)).map fun j => 4 * j

def pageLoop (device : Device) (raw : List UInt8) : List (List Char) × Bool :=
  writeWords device (padded raw) (positions (padded raw)) 0

/-- What the script sends: the erasing of the flash, the image, and if that went well the boot from
    flash and the jump to it. -/
def script (device : Device) (raw : List UInt8) : List (List Char) :=
  ["W400E0804,5A000005#".toList, "w400E0808,4#".toList] ++ (pageLoop device raw).1 ++
    if (pageLoop device raw).2 then ["W400E0804,5A00010B#".toList, "G00000000#".toList] else []

/-! ## The monitor -/

/-- A word write, as the protocol reads it. -/
def readWrite : List Char → Option (Nat × Nat)
  | 'W' :: text => do
    let (address, text) ← cut ',' text
    let (value, rest) ← cut '#' text
    if address = [] ∨ value = [] ∨ rest ≠ [] then none else some (← readHex address, ← readHex value)
  | _ => none

def writes (commands : List (List Char)) : List (Nat × Nat) := commands.filterMap readWrite

/-- The words of a page of the image, at their addresses -/
def wordWrites (fw : List UInt8) (page : Nat) : List (Nat × Nat) :=
  (List.range 64).map fun i => (flashBase + (256 * page + 4 * i), peek fw (256 * page + 4 * i))

/-- The writing of a page: the key, the number of the page, and the command -/
def pageWrite (page : Nat) : Nat × Nat := (0x400E0804, 0x5A000003 + page * 256)

/-- The writes that bring an image into the flash. -/
def imageWrites (raw : List UInt8) : List (Nat × Nat) :=
  (List.range ((padded raw).length / 256)).flatMap fun page =>
    wordWrites (padded raw) page ++ [pageWrite page]

/-- The script writes the image, between the erasing and the setting of the boot bit; where the
    device ends it, it has written a first part. -/
def Faithful (raw : List UInt8) : Prop :=
  ∀ device, writes (script device raw) <+:
      (0x400E0804, 0x5A000005) :: imageWrites raw ++ [(0x400E0804, 0x5A00010B)] ∧
    ((pageLoop device raw).2 = true → writes (script device raw) =
      (0x400E0804, 0x5A000005) :: imageWrites raw ++ [(0x400E0804, 0x5A00010B)])

/-! ## Numbers in the commands -/

theorem digits_zfill {text : List Char} (digits : Digits text) (width : Nat) :
    Digits (zfill width text) := by
  intro c member
  rcases List.mem_append.mp member with zero | inside
  · exact ⟨0, by decide, List.eq_of_mem_replicate zero⟩
  · exact digits c inside

theorem readHex_zfill (width : Nat) (text : List Char) : readHex (zfill width text) = readHex text :=
  readHex_replicate_zero _ text

theorem zfill_ne_nil {width : Nat} (positive : 0 < width) (text : List Char) :
    zfill width text ≠ [] := by
  cases text with
  | nil => simp [zfill]; omega
  | cons c text => simp [zfill]

/-- Stripping the characters of `"0x"` takes the prefix off, and zeros that do not count. -/
theorem lstrip_hex (n : Nat) :
    lstrip ['0', 'x'] (hex n) = (Nat.toDigits 16 n).dropWhile (· = '0') := by
  have strips {text : List Char} (digits : Digits text) :
      lstrip ['0', 'x'] text = text.dropWhile (· = '0') := by
    induction text with
    | nil => rfl
    | cons c text inductionHypothesis =>
      -- a digit is never `x`, so that what is stripped behind the prefix are zeros
      have notX : c ≠ 'x' := by
        obtain ⟨d, small, rfl⟩ := digits c List.mem_cons_self
        interval_cases d <;> decide
      have later := inductionHypothesis fun c member => digits c (List.mem_cons_of_mem _ member)
      by_cases zero : c = '0'
      · simpa [lstrip, zero] using later
      · simp [lstrip, zero, notX]
  exact strips (digits_toDigits n)

theorem digits_lstrip_hex (n : Nat) : Digits (lstrip ['0', 'x'] (hex n)) := by
  rw [lstrip_hex]
  exact fun c member => digits_toDigits n c ((List.dropWhile_sublist _).subset member)

theorem readHex_lstrip_hex (n : Nat) : readHex (lstrip ['0', 'x'] (hex n)) = some n := by
  rw [lstrip_hex, readHex_dropWhile_zero, readHex_toDigits]

/-- No number ends with the suffix of a Python 2 `long`. -/
theorem rstrip_digits {text : List Char} (digits : Digits text) : rstrip ['L'] text = text := by
  rw [rstrip, List.rdropWhile_eq_self_iff]
  intro nonempty isL
  obtain ⟨d, small, last⟩ := digits _ (List.getLast_mem nonempty)
  rw [last] at isL
  interval_cases d <;> exact absurd isL (by decide)

/-- Neither separator is a digit, in either case. -/
theorem not_mem_upper {text : List Char} (digits : Digits text) {sep : Char}
    (isSep : sep = ',' ∨ sep = '#') : sep ∉ upper text := by
  intro member
  obtain ⟨c, inside, same⟩ := List.mem_map.mp member
  obtain ⟨d, small, rfl⟩ := digits c inside
  rcases isSep with rfl | rfl
  · interval_cases d <;> exact absurd same (by decide)
  · interval_cases d <;> exact absurd same (by decide)

/-! ## The two commands -/

theorem readWrite_eq {address value : List Char} (noComma : ',' ∉ address) (noEnd : '#' ∉ value)
    (addressNonempty : address ≠ []) (valueNonempty : value ≠ []) :
    readWrite ('W' :: address ++ ',' :: value ++ ['#']) =
      (readHex address).bind fun a => (readHex value).map fun v => (a, v) := by
  have first := cut_append noComma (value ++ ['#'])
  have second := cut_append noEnd []
  simp only [readWrite, List.cons_append, List.append_assoc, first, second, Option.bind_eq_bind,
    Option.bind_some, addressNonempty, valueNonempty, ne_eq, not_true_eq_false, or_self, if_false]
  cases readHex address <;> cases readHex value <;> rfl

/-- A word command writes the word at its address. -/
theorem readWrite_wordCommand (fw : List UInt8) (pos : Nat) :
    readWrite (wordCommand fw pos) = some (flashBase + pos, peek fw pos) := by
  -- address and data are spelled alike: stripped, filled to eight digits, in upper case
  have number (n : Nat) : ∃ text, zfill 8 (rstrip ['L'] (lstrip ['0', 'x'] (hex n))) = text ∧
      Digits text ∧ text ≠ [] ∧ readHex (upper text) = some n := by
    have digits := digits_zfill (digits_lstrip_hex n) 8
    refine ⟨_, rfl, ?_⟩
    rw [rstrip_digits (digits_lstrip_hex n)]
    refine ⟨digits, zfill_ne_nil (by decide) _, ?_⟩
    rw [upper, readHex, readHexFrom_toUpper digits]
    exact (readHex_zfill 8 _).trans (readHex_lstrip_hex n)
  obtain ⟨address, isAddress, addressDigits, addressNonempty, readAddress⟩ := number (flashBase + pos)
  obtain ⟨data, isData, dataDigits, dataNonempty, readData⟩ := number (peek fw pos)
  have command : wordCommand fw pos = 'W' :: upper address ++ ',' :: upper data ++ ['#'] := by
    simp [wordCommand, isAddress, isData, upper]
  rw [command, readWrite_eq (not_mem_upper addressDigits (.inl rfl)) (not_mem_upper dataDigits (.inr rfl))
    (by simpa [upper] using addressNonempty) (by simpa [upper] using dataNonempty), readAddress, readData]
  rfl

/-- The number of a page, as it stands in its command -/
def pageText (page : Nat) : List Char := zfill 2 (lstrip ['0', 'x'] (hex page))

theorem readHex_pageText (page : Nat) : readHex (pageText page) = some page :=
  (readHex_zfill 2 _).trans (readHex_lstrip_hex page)

/-- The value of a page command depends on the number of digits that the page takes. -/
def pageValue (page : Nat) : Nat :=
  16 ^ 2 * (16 ^ (pageText page).length * 0x5A00 + page) + 3

theorem pageCommand_eq (page : Nat) : pageCommand page =
    'W' :: "400E0804".toList ++ ',' :: ("5A00".toList ++ pageText page ++ "03".toList) ++ ['#'] := by
  have front : "W400E0804,5A00".toList = 'W' :: "400E0804".toList ++ ',' :: "5A00".toList := by decide
  have back : "03#".toList = "03".toList ++ ['#'] := by decide
  have template : pageCommand page = "W400E0804,5A00".toList ++ pageText page ++ "03#".toList := rfl
  rw [template, front, back]
  simp only [List.cons_append, List.append_assoc]

theorem readWrite_pageCommand (page : Nat) :
    readWrite (pageCommand page) = some (0x400E0804, pageValue page) := by
  have digits : Digits (pageText page) := digits_zfill (digits_lstrip_hex page) 2
  have address : readHex "400E0804".toList = some 0x400E0804 := by decide
  have value : readHex ("5A00".toList ++ pageText page ++ "03".toList) = some (pageValue page) := by
    have key : readHex "5A00".toList = some 0x5A00 := by decide
    have order : readHex "03".toList = some 3 := by decide
    exact readHex_append (readHex_append key (readHex_pageText page)) order
  have noEnd : '#' ∉ "5A00".toList ++ pageText page ++ "03".toList := by
    have inPage : '#' ∉ pageText page := fun member => by
      obtain ⟨d, small, same⟩ := digits _ member
      interval_cases d <;> exact absurd same (by decide)
    simp [inPage]
  rw [pageCommand_eq, readWrite_eq (by decide) noEnd (by decide) (by simp), address, value]
  rfl

theorem length_zfill (width : Nat) (text : List Char) :
    (zfill width text).length = max width text.length := by
  simp only [zfill, List.length_append, List.length_replicate]
  omega

/-- Two digits are enough for a page below 256. -/
theorem pageValue_of_lt {page : Nat} (small : page < 256) : pageValue page = (pageWrite page).2 := by
  have short : (lstrip ['0', 'x'] (hex page)).length ≤ 2 := by
    rw [lstrip_hex]
    exact (List.dropWhile_sublist _).length_le.trans
      ((Nat.length_toDigits_le_iff (by decide) (by decide)).mpr small)
  have two : (pageText page).length = 2 := by rw [pageText, length_zfill, Nat.max_eq_left short]
  rw [pageValue, two, pageWrite]
  omega

/-- A third digit moves the key out of its place. -/
theorem pageValue_of_le {page : Nat} (large : 256 ≤ page) : (pageWrite page).2 < pageValue page := by
  have digits := readHex_lt (readHex_pageText page)
  -- two digits tell 256 numbers apart, and this page is beyond them
  have three : 3 ≤ (pageText page).length := by
    by_contra short
    have bound : 16 ^ (pageText page).length ≤ 16 ^ 2 := Nat.pow_le_pow_right (by decide) (by omega)
    omega
  have shifted : 16 ^ 3 ≤ 16 ^ (pageText page).length := Nat.pow_le_pow_right (by decide) three
  rw [pageValue, pageWrite]
  omega

/-! ## The loop -/

/-- What the loop writes at a position: the word, and at the end of a page the page. -/
def writtenAt (fw : List UInt8) (j : Nat) : List (Nat × Nat) :=
  (flashBase + 4 * j, peek fw (4 * j)) ::
    if j % 64 = 63 then [(0x400E0804, pageValue (j / 64))] else []

/-- `pos & 0xFC == 0xFC` -/
theorem endsPage_iff (j : Nat) : 4 * j &&& 0xFC = 0xFC ↔ j % 64 = 63 := by
  have shift : 4 * j &&& 0xFC = 4 * (j % 64) := by
    have low : j &&& 63 = j % 64 := Nat.and_two_pow_sub_one_eq_mod j 6
    have four (n : Nat) : n <<< 2 = 4 * n := by rw [Nat.shiftLeft_eq, Nat.mul_comm]
    rw [← low, ← four, ← four, Nat.shiftLeft_and_distrib]
    rfl
  rw [shift]
  omega

theorem writes_cons_word (fw : List UInt8) (pos : Nat) (commands : List (List Char)) :
    writes (wordCommand fw pos :: commands) = (flashBase + pos, peek fw pos) :: writes commands := by
  rw [writes, List.filterMap_cons, readWrite_wordCommand]
  rfl

/-- The loop writes what stands at its positions, or a first part of it where the device ends it. -/
theorem writes_writeWords (device : Device) (fw : List UInt8) (n k : Nat) :
    let loop := writeWords device fw ((List.range' k n).map fun j => 4 * j) (k / 64)
    writes loop.1 <+: (List.range' k n).flatMap (writtenAt fw) ∧
      (loop.2 = true → writes loop.1 = (List.range' k n).flatMap (writtenAt fw)) := by
  -- over the positions left; `k / 64` is the page that the script counts
  induction n generalizing k with
  | zero => exact ⟨List.prefix_refl _, fun _ => rfl⟩
  | succ n inductionHypothesis =>
    obtain ⟨first, whole⟩ := inductionHypothesis (k + 1)
    simp only [List.range'_succ, List.map_cons, List.flatMap_cons, writeWords, writtenAt, endsPage_iff]
    by_cases raises : device.raises (4 * k) = true
    · rw [if_pos raises]
      -- the word has been sent, and nothing follows it
      refine ⟨?_, by simp⟩
      rw [writes_cons_word]
      exact List.cons_prefix_cons.mpr ⟨rfl, List.nil_prefix⟩
    · rw [if_neg raises]
      by_cases ends : k % 64 = 63
      · rw [if_pos ends, if_pos ends]
        -- the last word of a page: its command stands before the first word of the next
        have next : k / 64 + 1 = (k + 1) / 64 := by omega
        have written (commands : List (List Char)) :
            writes (pageCommand (k / 64) :: "w400E0808,4#".toList :: commands) =
              (0x400E0804, pageValue (k / 64)) :: writes commands := by
          rw [writes, List.filterMap_cons, readWrite_pageCommand]
          rfl
        by_cases answers : device.pageStatus (k / 64) = some 1
        · rw [if_pos answers, next]
          simp only [List.cons_append, List.nil_append, writes_cons_word, written]
          refine ⟨?_, fun finished => ?_⟩
          · exact List.cons_prefix_cons.mpr ⟨rfl, List.cons_prefix_cons.mpr ⟨rfl, first⟩⟩
          · rw [whole finished]
        · rw [if_neg answers]
          refine ⟨?_, by simp⟩
          rw [writes_cons_word, written]
          exact List.cons_prefix_cons.mpr ⟨rfl, List.cons_prefix_cons.mpr ⟨rfl, List.nil_prefix⟩⟩
      · rw [if_neg ends, if_neg ends]
        -- inside a page the count of pages stays
        have same : k / 64 = (k + 1) / 64 := by omega
        rw [same]
        simp only [writes_cons_word, List.cons_append, List.nil_append]
        refine ⟨List.cons_prefix_cons.mpr ⟨rfl, first⟩, fun finished => ?_⟩
        rw [whole finished]

/-! ## The image -/

/-- What the pages of an image have written, the values of their commands as the script spells
    them. -/
def spelledPage (fw : List UInt8) (page : Nat) : List (Nat × Nat) :=
  wordWrites fw page ++ [(0x400E0804, pageValue page)]

/-- Below the last position of a page only words are written. -/
theorem written_words (fw : List UInt8) (page : Nat) {n : Nat} (inPage : n ≤ 63) :
    (List.range n).flatMap (fun i => writtenAt fw (64 * page + i)) =
      (List.range n).map fun i =>
        (flashBase + (256 * page + 4 * i), peek fw (256 * page + 4 * i)) := by
  induction n with
  | zero => rfl
  | succ n inductionHypothesis =>
    have inside : (64 * page + n) % 64 ≠ 63 := by omega
    have position : 4 * (64 * page + n) = 256 * page + 4 * n := by omega
    rw [List.range_succ, List.flatMap_append, List.map_append, inductionHypothesis (by omega),
      List.flatMap_singleton, writtenAt, if_neg inside, position]
    rfl

theorem written_page (fw : List UInt8) (page : Nat) :
    (List.range 64).flatMap (fun i => writtenAt fw (64 * page + i)) = spelledPage fw page := by
  have last : (64 * page + 63) % 64 = 63 := by omega
  have number : (64 * page + 63) / 64 = page := by omega
  have position : 4 * (64 * page + 63) = 256 * page + 4 * 63 := by omega
  have words : List.range 64 = List.range 63 ++ [63] := List.range_succ
  rw [spelledPage, wordWrites, words, List.flatMap_append, written_words fw page (le_refl 63),
    List.flatMap_singleton, writtenAt, if_pos last, number, position, List.map_append,
    List.append_assoc]
  rfl

/-- The loop writes page after page. -/
theorem written_pages (fw : List UInt8) (pages : Nat) :
    (List.range (64 * pages)).flatMap (writtenAt fw) =
      (List.range pages).flatMap (spelledPage fw) := by
  induction pages with
  | zero => rfl
  | succ page inductionHypothesis =>
    rw [Nat.mul_succ, List.range_add, List.flatMap_append, inductionHypothesis, List.flatMap_map,
      written_page, List.range_succ, List.flatMap_append, List.flatMap_singleton]

theorem length_padded (raw : List UInt8) : (padded raw).length = 256 * (raw.length / 256 + 1) := by
  simp only [padded, List.length_append, List.length_replicate]
  omega

def pages (raw : List UInt8) : Nat := raw.length / 256 + 1

theorem positions_padded (raw : List UInt8) :
    positions (padded raw) = (List.range' 0 (64 * pages raw)).map fun j => 4 * j := by
  have count : ((padded raw).length + 3) / 4 = 64 * pages raw := by
    rw [length_padded, pages]
    omega
  rw [positions, count, List.range_eq_range']

theorem imageWrites_eq (raw : List UInt8) : imageWrites raw =
    (List.range (pages raw)).flatMap fun page => wordWrites (padded raw) page ++ [pageWrite page] := by
  rw [imageWrites, length_padded, Nat.mul_div_cancel_left _ (by decide)]
  rfl

/-- What the script has spelled of the image. -/
def spelled (raw : List UInt8) : List (Nat × Nat) :=
  (List.range (pages raw)).flatMap (spelledPage (padded raw))

theorem writes_pageLoop (device : Device) (raw : List UInt8) :
    writes (pageLoop device raw).1 <+: spelled raw ∧
      ((pageLoop device raw).2 = true → writes (pageLoop device raw).1 = spelled raw) := by
  have loop := writes_writeWords device (padded raw) (64 * pages raw) 0
  simp only [Nat.zero_div] at loop
  rw [← positions_padded, ← List.range_eq_range', written_pages] at loop
  exact loop

theorem writes_append (first second : List (List Char)) :
    writes (first ++ second) = writes first ++ writes second := List.filterMap_append

theorem writes_script (device : Device) (raw : List UInt8) :
    writes (script device raw) = (0x400E0804, 0x5A000005) :: writes (pageLoop device raw).1 ++
      if (pageLoop device raw).2 then [(0x400E0804, 0x5A00010B)] else [] := by
  have erasing : writes ["W400E0804,5A000005#".toList, "w400E0808,4#".toList] =
      [(0x400E0804, 0x5A000005)] := by decide
  have closing : writes ["W400E0804,5A00010B#".toList, "G00000000#".toList] =
      [(0x400E0804, 0x5A00010B)] := by decide
  rw [script, writes_append, writes_append, erasing]
  split
  · rw [closing]
    rfl
  · rfl

/-- An image whose pages all take two digits is spelled right. -/
theorem spelled_of_small {raw : List UInt8} (small : raw.length < 65536) :
    spelled raw = imageWrites raw := by
  rw [imageWrites_eq, spelled]
  apply List.flatMap_congr
  intro page inImage
  have bound : page < 256 := by
    have := List.mem_range.mp inImage
    rw [pages] at this
    omega
  rw [spelledPage, pageValue_of_lt bound]
  rfl

/-- A device that takes every word and answers to every page that it is written -/
def goodDevice : Device := { raises := fun _ => false, pageStatus := fun _ => some 1 }

theorem writeWords_goodDevice (fw : List UInt8) (positions : List Nat) (page : Nat) :
    (writeWords goodDevice fw positions page).2 = true := by
  induction positions generalizing page with
  | nil => rfl
  | cons pos later inductionHypothesis =>
    rw [writeWords]
    split_ifs with raises ends answers
    · exact absurd raises Bool.false_ne_true
    · exact inductionHypothesis (page + 1)
    · exact absurd rfl answers
    · exact inductionHypothesis page

/-- From the page 256 on the script is not faithful: the number of that page moves the key out of
    its place. -/
theorem not_faithful {raw : List UInt8} (large : 65536 ≤ raw.length) : ¬ Faithful raw := by
  intro faithful
  have finished : (pageLoop goodDevice raw).2 = true := writeWords_goodDevice _ _ _
  have sent := (faithful goodDevice).2 finished
  rw [writes_script, (writes_pageLoop goodDevice raw).2 finished, if_pos finished] at sent
  have same : spelled raw = imageWrites raw :=
    (List.cons.inj (List.append_cancel_right sent)).2
  rw [imageWrites_eq, spelled] at same
  have inImage : 256 < pages raw := by
    rw [pages]
    omega
  have lengths (page : Nat) : (spelledPage (padded raw) page).length =
      (wordWrites (padded raw) page ++ [pageWrite page]).length := by simp [spelledPage]
  have page256 := Library.Bytes.flatMap_range_inj lengths same 256 inImage
  have value : pageValue 256 = (pageWrite 256).2 :=
    congrArg Prod.snd (List.cons.inj (List.append_cancel_left page256)).1
  exact absurd value (Nat.ne_of_gt (pageValue_of_le (le_refl 256)))

/-- The script writes the image that it is given exactly where the image, with the zeros up to the
    end of its last page, takes no more than 256 pages. -/
theorem faithful_iff (raw : List UInt8) : Faithful raw ↔ raw.length < 65536 := by
  constructor
  · intro faithful
    by_contra large
    exact not_faithful (Nat.le_of_not_lt large) faithful
  · intro small device
    obtain ⟨first, whole⟩ := writes_pageLoop device raw
    rw [spelled_of_small small] at first whole
    rw [writes_script]
    by_cases finished : (pageLoop device raw).2 = true
    · rw [if_pos finished, whole finished]
      exact ⟨List.prefix_refl _, fun _ => rfl⟩
    · rw [if_neg finished, List.append_nil]
      refine ⟨?_, fun holds => absurd holds finished⟩
      apply List.cons_prefix_cons.mpr
      exact ⟨rfl, first.trans (List.prefix_append _ _)⟩

/-- 64 KiB of zeros fit in the flash, and take 257 pages.  The command for the last one has nine
    digits, and no 32 of its bits are the command that the page needs. -/
theorem page_256_misspelled :
    (List.replicate 65536 (0 : UInt8)).length ≤ 0x20000 - 512 ∧
      ¬ Faithful (List.replicate 65536 0) ∧
      pageCommand 256 = "W400E0804,5A0010003#".toList ∧
      readWrite (pageCommand 256) = some (0x400E0804, 0x5A0010003) ∧
      0x5A0010003 % 2 ^ 32 ≠ (pageWrite 256).2 := by
  have length : (List.replicate 65536 (0 : UInt8)).length = 65536 := List.length_replicate
  have text : pageCommand 256 = "W400E0804,5A0010003#".toList := by decide +kernel
  have read : readWrite (pageCommand 256) = some (0x400E0804, 0x5A0010003) := by decide +kernel
  have low : 0x5A0010003 % 2 ^ 32 ≠ (pageWrite 256).2 := by decide
  have fits : (List.replicate 65536 (0 : UInt8)).length ≤ 0x20000 - 512 := by
    rw [length]
    decide
  exact ⟨fits, not_faithful (Nat.le_of_eq length.symm), text, read, low⟩

end M1k.SamBa
