import Mathlib.Data.List.Perm.Basic
import ShellWorkers.Capture
import ShellWorkers.Proofs.SessionTraces
import ShellWorkers.Proofs.Utf8

/-!
# The record is a merge of lines

Each output stream has a reader of its own.  A reader takes the octets of its stream into the line
that it has begun, and appends that line to the common record when it is over; the steps of the two
readers may come in any order.  What order they come in decides which line goes before which, and
nothing else.

* `part`                   what a sequence of two streams holds of one of them;
* `cutBehind`              a sequence cut behind every end of a line;
* `Merges`                 a record of two sequences, line by line;
* `ReaderStep`, `perform`  the steps of the readers;
* `octets_performAll`      what any steps of the readers leave in the record;
* `AreLines.octets`        the lines of a text are the lines of its octets;
* `output_merges_lines`    the record is a merge of the lines of both streams, as octets and as
                           text.
-/

namespace ShellWorkers

/-! ## two sequences in one -/

section

variable {α β : Type}

/-- the elements of one stream, in order -/
def part (s : Stream) (xs : List (Stream × α)) : List α :=
  xs.filterMap fun x => if x.1 = s then some x.2 else none

theorem part_cons_same (s : Stream) (x : α) (xs : List (Stream × α)) :
    part s ((s, x) :: xs) = x :: part s xs := by
  simp [part]

theorem part_cons_other {s t : Stream} (h : t ≠ s) (x : α) (xs : List (Stream × α)) :
    part s ((t, x) :: xs) = part s xs := by
  simp [part, h]

theorem part_flatMap (s : Stream) (f : α → List β) (xs : List (Stream × α)) :
    part s (xs.flatMap fun x => (f x.2).map (x.1, ·)) = (part s xs).flatMap f := by
  induction xs with
  | nil => rfl
  | cons x xs ih =>
    obtain ⟨t, x⟩ := x
    have hsplit : part s ((f x).map (t, ·) ++ xs.flatMap fun x => (f x.2).map (x.1, ·)) =
        part s ((f x).map (t, ·)) ++ (part s xs).flatMap f := by
      rw [← ih, part, part, part, List.filterMap_append]
    rw [List.flatMap_cons, hsplit]
    by_cases h : t = s
    · subst h
      rw [part_cons_same, List.flatMap_cons]
      congr 1
      simp [part]
    · rw [part_cons_other h]
      simp [part, h]

end

/-! ## lines -/

section

variable {α : Type}

/-- the first line begins with `start` -/
def headed (start : List α) : List (List α) → List (List α)
  | [] => if start.isEmpty then [] else [start]
  | line :: lines => (start ++ line) :: lines

theorem headed_nil (lines : List (List α)) : headed [] lines = lines := by
  cases lines <;> rfl

theorem headed_append (first second : List α) (lines : List (List α)) :
    headed (first ++ second) lines = headed first (headed second lines) := by
  cases lines with
  | nil => cases first <;> cases second <;> simp [headed]
  | cons line lines => simp [headed]

/-- The lines of a sequence: each has an end behind it and none before, but the last line may have
no end. -/
inductive AreLines (lineEnd : α) : List α → List (List α) → Prop where
  | none : AreLines lineEnd [] []
  | last (line : List α) (unended : lineEnd ∉ line) (nonempty : line ≠ []) :
    AreLines lineEnd line [line]
  | cons (line : List α) (unended : lineEnd ∉ line) {xs : List α} {lines : List (List α)}
      (rest : AreLines lineEnd xs lines) :
    AreLines lineEnd (line ++ lineEnd :: xs) ((line ++ [lineEnd]) :: lines)

theorem AreLines.prepend {lineEnd x : α} (hx : x ≠ lineEnd) {xs : List α} {lines : List (List α)}
    (h : AreLines lineEnd xs lines) : AreLines lineEnd (x :: xs) (headed [x] lines) := by
  have hfresh : ∀ {line : List α}, lineEnd ∉ line → lineEnd ∉ x :: line :=
    fun hline => List.not_mem_cons_of_ne_of_not_mem (Ne.symm hx) hline
  cases h with
  | none => exact .last [x] (hfresh List.not_mem_nil) (List.cons_ne_nil x [])
  | last _ unended nonempty => exact .last (x :: xs) (hfresh unended) (List.cons_ne_nil x xs)
  | cons line unended rest => exact .cons (x :: line) (hfresh unended) rest

variable [DecidableEq α] {lineEnd : α}

/-- a sequence cut behind every end of a line -/
def cutBehind (lineEnd : α) : List α → List (List α)
  | [] => []
  | x :: xs =>
    if x = lineEnd then [x] :: cutBehind lineEnd xs else headed [x] (cutBehind lineEnd xs)

/-- what has no end is the beginning of a line -/
theorem cutBehind_append {start : List α} (h : lineEnd ∉ start) (xs : List α) :
    cutBehind lineEnd (start ++ xs) = headed start (cutBehind lineEnd xs) := by
  induction start with
  | nil => rw [List.nil_append, headed_nil]
  | cons x start ih =>
    rw [List.mem_cons, not_or] at h
    rw [List.cons_append, cutBehind, if_neg (Ne.symm h.1), ih h.2, ← headed_append]
    rfl

/-- a line and its end -/
theorem cutBehind_line {start : List α} (h : lineEnd ∉ start) (xs : List α) :
    cutBehind lineEnd (start ++ lineEnd :: xs) =
      (start ++ [lineEnd]) :: cutBehind lineEnd xs := by
  rw [cutBehind_append h, cutBehind, if_pos rfl, headed]

/-- a sequence has its lines and no others -/
theorem areLines_iff {xs : List α} {lines : List (List α)} :
    AreLines lineEnd xs lines ↔ lines = cutBehind lineEnd xs := by
  constructor
  · intro h
    induction h with
    | none => rfl
    | last line unended nonempty =>
      rw [← List.append_nil line, cutBehind_append unended, cutBehind, headed, List.append_nil,
        if_neg (by simpa using nonempty)]
    | cons line unended rest ih => rw [cutBehind_line unended, ih]
  · rintro rfl
    induction xs with
    | nil => exact .none
    | cons x xs ih =>
      rw [cutBehind]
      by_cases hx : x = lineEnd
      · subst hx
        rw [if_pos rfl]
        exact .cons [] List.not_mem_nil ih
      · rw [if_neg hx]
        exact ih.prepend hx

end

/-! ## the steps of the readers -/

inductive ReaderStep where
  /-- takes an octet of the stream into the line that has begun -/
  | take (b : UInt8)
  /-- appends the line that has begun to the record -/
  | append
  deriving DecidableEq

namespace ReaderStep

/-- what a reader does with octets of its stream -/
def ofOctets (bs : List UInt8) : List ReaderStep :=
  bs.flatMap fun b => if b = Capture.lineEnd then [take b, append] else [take b]

/-- what a reader does with a stream until it is closed -/
def ofStream (bs : List UInt8) : List ReaderStep := ofOctets bs ++ [append]

/-- the lines that a reader appends, the octets `pending` of a line having been taken, last first -/
def appended (pending : List UInt8) : List ReaderStep → List (List UInt8)
  | [] => []
  | take b :: steps => appended (b :: pending) steps
  | append :: steps =>
    if pending.isEmpty then appended [] steps else pending.reverse :: appended [] steps

theorem ofOctets_cons (b : UInt8) (bs : List UInt8) :
    ofOctets (b :: bs) =
      (if b = Capture.lineEnd then [take b, append] else [take b]) ++ ofOctets bs := rfl

theorem ofStream_cons (b : UInt8) (bs : List UInt8) :
    ofStream (b :: bs) =
      (if b = Capture.lineEnd then [take b, append] else [take b]) ++ ofStream bs := by
  rw [ofStream, ofOctets_cons, List.append_assoc]
  rfl

/-- one reader by itself appends the lines of its stream -/
theorem areLines_appended {pending : List UInt8} (h : Capture.lineEnd ∉ pending)
    (bs : List UInt8) :
    AreLines Capture.lineEnd (pending.reverse ++ bs) (appended pending (ofStream bs)) := by
  induction bs generalizing pending with
  | nil =>
    rw [List.append_nil]
    cases pending with
    | nil => exact .none
    | cons b pending => exact .last _ (by rwa [List.mem_reverse]) (by simp)
  | cons b bs ih =>
    rw [ofStream_cons]
    by_cases hb : b = Capture.lineEnd
    · subst hb
      rw [if_pos rfl]
      have hline : appended pending
          ([take Capture.lineEnd, append] ++ ofStream bs) =
            (pending.reverse ++ [Capture.lineEnd]) :: appended [] (ofStream bs) := by
        simp [appended]
      rw [hline]
      exact .cons _ (by rwa [List.mem_reverse]) (ih List.not_mem_nil)
    · rw [if_neg hb]
      have hrest := ih (List.not_mem_cons_of_ne_of_not_mem (Ne.symm hb) h)
      rw [List.reverse_cons, List.append_assoc] at hrest
      exact hrest

end ReaderStep

namespace Capture

def perform (c : Capture) : Stream × ReaderStep → Capture
  | (s, .take b) => c.setLine s (b :: c.line s)
  | (s, .append) => c.flush s

def performAll (c : Capture) (steps : List (Stream × ReaderStep)) : Capture :=
  steps.foldl perform c

theorem performAll_append (c : Capture) (first second : List (Stream × ReaderStep)) :
    c.performAll (first ++ second) = (c.performAll first).performAll second :=
  List.foldl_append

theorem line_setLine (c : Capture) (s : Stream) (l : List UInt8) : (c.setLine s l).line s = l := by
  cases s <;> rfl

theorem line_setLine_other (c : Capture) {s t : Stream} (h : t ≠ s) (l : List UInt8) :
    (c.setLine t l).line s = c.line s := by
  cases s <;> cases t <;> first | rfl | exact absurd rfl h

theorem octets_setLine (c : Capture) (s : Stream) (l : List UInt8) :
    (c.setLine s l).octets = c.octets := by
  cases s <;> rfl

theorem octets_flush (c : Capture) (s : Stream) :
    (c.flush s).octets = c.octets ++ (c.line s).reverse := by
  rw [flush, octets_setLine, octets, List.reverse_append]
  rfl

theorem line_flush (c : Capture) (s : Stream) : (c.flush s).line s = [] := line_setLine _ s []

theorem line_flush_other (c : Capture) {s t : Stream} (h : t ≠ s) :
    (c.flush t).line s = c.line s := by
  rw [flush, line_setLine_other _ h]
  cases s <;> rfl

/-! ## what the steps leave in the record -/

/-- Whatever the order of the steps, the record grows by whole lines, and those of one stream are
the lines that its reader appends by itself. -/
theorem octets_performAll (c : Capture) (steps : List (Stream × ReaderStep)) :
    ∃ merged, (∀ s, part s merged = ReaderStep.appended (c.line s) (part s steps)) ∧
      (c.performAll steps).octets = c.octets ++ merged.flatMap Prod.snd := by
  induction steps generalizing c with
  | nil => exact ⟨[], fun s => rfl, (List.append_nil _).symm⟩
  | cons step steps ih =>
    obtain ⟨t, step⟩ := step
    obtain ⟨merged, hparts, hoctets⟩ := ih (c.perform (t, step))
    cases step with
    | take b =>
      refine ⟨merged, fun s => ?_, ?_⟩
      · rw [hparts, perform]
        by_cases hs : t = s
        · subst hs
          rw [line_setLine, part_cons_same, ReaderStep.appended]
        · rw [line_setLine_other c hs, part_cons_other hs]
      · rw [perform, octets_setLine] at hoctets
        exact hoctets
    | append =>
      -- a line that holds nothing leaves no trace
      refine ⟨if (c.line t).isEmpty then merged else (t, (c.line t).reverse) :: merged,
        fun s => ?_, ?_⟩
      · have hrest := hparts s
        rw [perform] at hrest
        by_cases hs : t = s
        · subst hs
          rw [line_flush] at hrest
          rw [part_cons_same, ReaderStep.appended, ← hrest]
          split
          · rfl
          · rw [part_cons_same]
        · rw [line_flush_other c hs] at hrest
          rw [part_cons_other hs, ← hrest]
          split
          · rfl
          · rw [part_cons_other hs]
      · rw [perform, octets_flush, List.append_assoc] at hoctets
        refine hoctets.trans (congrArg (c.octets ++ ·) ?_)
        split
        · next hempty => rw [List.isEmpty_iff.mp hempty, List.reverse_nil, List.nil_append]
        · rw [List.flatMap_cons]

/-! ## the readers of a host -/

/-- A host hands over what it has read from a stream, or that the stream is closed. -/
def handOver (c : Capture) : Stream × Option (List UInt8) → Capture
  | (s, some bs) => c.read s bs
  | (s, none) => c.close s

/-- the steps of a reader to which this is handed over -/
def stepsOf : Option (List UInt8) → List ReaderStep
  | some bs => ReaderStep.ofOctets bs
  | none => [.append]

theorem read_eq_performAll (c : Capture) (s : Stream) (bs : List UInt8) :
    c.read s bs = c.performAll ((ReaderStep.ofOctets bs).map (s, ·)) := by
  induction bs generalizing c with
  | nil => rfl
  | cons b bs ih =>
    rw [read_cons, ih, ReaderStep.ofOctets_cons, List.map_append, performAll_append]
    congr 1
    rw [readOctet]
    split <;> rfl

theorem foldl_handOver (c : Capture) (calls : List (Stream × Option (List UInt8))) :
    calls.foldl handOver c =
      c.performAll (calls.flatMap fun call => (stepsOf call.2).map (call.1, ·)) := by
  induction calls generalizing c with
  | nil => rfl
  | cons call calls ih =>
    rw [List.foldl_cons, ih, List.flatMap_cons, performAll_append]
    congr 1
    obtain ⟨s, _ | bs⟩ := call
    · rfl
    · exact read_eq_performAll c s bs

theorem stepsOf_chunks (chunks : List (List UInt8)) :
    (chunks.map some ++ [none]).flatMap stepsOf = ReaderStep.ofStream chunks.flatten := by
  rw [List.flatMap_append, List.flatMap_map]
  congr 1
  induction chunks with
  | nil => rfl
  | cons bs chunks ih =>
    rw [List.flatMap_cons, ih, List.flatten_cons, ReaderStep.ofOctets, ReaderStep.ofOctets,
      List.flatMap_append]
    rfl

end Capture

/-! ## lines of text -/

/-- the octets of a character hold the end of a line only if it is one -/
theorem lineEnd_notMem_utf8EncodeChar {c : Char} (h : c ≠ '\n') :
    Capture.lineEnd ∉ String.utf8EncodeChar c := by
  have hne : ∀ {n : Nat}, n < 256 → n ≠ 10 → Capture.lineEnd ≠ UInt8.ofNat n := by
    intro n hn hten heq
    rw [← Text.toNat_octet hn, ← heq] at hten
    exact hten rfl
  have hval : c.val.toNat ≠ 10 := fun heq => h (Char.ext (UInt32.toNat_inj.mp heq))
  simp only [String.utf8EncodeChar]
  split
  · exact fun hmem => hne (by omega) hval (List.mem_singleton.mp hmem)
  split
  · simp only [List.mem_cons, List.not_mem_nil, or_false, not_or]
    exact ⟨hne (by omega) (by omega), hne (by omega) (by omega)⟩
  split
  · simp only [List.mem_cons, List.not_mem_nil, or_false, not_or]
    exact ⟨hne (by omega) (by omega), hne (by omega) (by omega), hne (by omega) (by omega)⟩
  · simp only [List.mem_cons, List.not_mem_nil, or_false, not_or]
    exact ⟨hne (by omega) (by omega), hne (by omega) (by omega), hne (by omega) (by omega),
      hne (by omega) (by omega)⟩

/-- the octets of characters -/
def octetsOfChars (cs : List Char) : List UInt8 := cs.flatMap String.utf8EncodeChar

/-- the lines of a text are the lines of its octets -/
theorem AreLines.octets {cs : List Char} {lines : List (List Char)} (h : AreLines '\n' cs lines) :
    AreLines Capture.lineEnd (octetsOfChars cs) (lines.map octetsOfChars) := by
  have hfresh : ∀ {line : List Char}, '\n' ∉ line → Capture.lineEnd ∉ octetsOfChars line := by
    intro line hline hmem
    obtain ⟨c, hc, hmem⟩ := List.mem_flatMap.mp hmem
    exact lineEnd_notMem_utf8EncodeChar (fun h => hline (h ▸ hc)) hmem
  have hend : String.utf8EncodeChar '\n' = [Capture.lineEnd] := by decide
  induction h with
  | none => exact .none
  | last line unended nonempty =>
    refine .last _ (hfresh unended) fun hempty => ?_
    obtain ⟨c, hc⟩ := List.exists_mem_of_ne_nil line nonempty
    exact String.utf8EncodeChar_ne_nil (List.flatMap_eq_nil_iff.mp hempty c hc)
  | @cons line unended cs lines rest ih =>
    have hcons : octetsOfChars (line ++ '\n' :: cs) =
        octetsOfChars line ++ Capture.lineEnd :: octetsOfChars cs := by
      rw [octetsOfChars, List.flatMap_append, List.flatMap_cons, hend]
      rfl
    have hline : octetsOfChars (line ++ ['\n']) = octetsOfChars line ++ [Capture.lineEnd] := by
      rw [octetsOfChars, List.flatMap_append, List.flatMap_singleton, hend]
      rfl
    rw [hcons, List.map_cons, hline]
    exact .cons _ (hfresh unended) ih

/-! ## the merge -/

/-- `all` is a record of two streams, line by line: `merged` says which line is whose. -/
structure Merges {α : Type} (lineEnd : α) (carried : Stream → List α) (all : List α)
    (merged : List (Stream × List α)) : Prop where
  lines : ∀ s, AreLines lineEnd (carried s) (part s merged)
  whole : all = merged.flatMap Prod.snd

section

variable {α β : Type}

theorem AreLines.flatten {lineEnd : α} {xs : List α} {lines : List (List α)}
    (h : AreLines lineEnd xs lines) : lines.flatten = xs := by
  induction h with
  | none => rfl
  | last line _ _ => exact List.flatten_singleton
  | cons line _ rest ih => rw [List.flatten_cons, ih, List.append_assoc, List.singleton_append]

theorem flatMap_perm_parts (merged : List (Stream × List α)) :
    (merged.flatMap Prod.snd).Perm
      ((part .output merged).flatten ++ (part .errors merged).flatten) := by
  induction merged with
  | nil => exact .nil
  | cons x merged ih =>
    obtain ⟨_ | _, line⟩ := x
    · rw [part_cons_same, part_cons_other (by decide), List.flatMap_cons, List.flatten_cons,
        List.append_assoc]
      exact ih.append_left line
    · rw [part_cons_other (by decide), part_cons_same, List.flatMap_cons, List.flatten_cons]
      refine (ih.append_left line).trans ?_
      rw [← List.append_assoc, ← List.append_assoc]
      exact List.perm_append_comm.append_right _

/-- nothing is lost and nothing is recorded twice -/
theorem Merges.perm {lineEnd : α} {carried : Stream → List α} {all : List α}
    {merged : List (Stream × List α)} (h : Merges lineEnd carried all merged) :
    all.Perm (carried .output ++ carried .errors) := by
  rw [h.whole, ← (h.lines .output).flatten, ← (h.lines .errors).flatten]
  exact flatMap_perm_parts merged

/-- a merge of images is the image of a merge -/
theorem exists_map_of_parts (g : α → β) {f : Stream → List α} {ys : List (Stream × β)}
    (h : ∀ s, part s ys = (f s).map g) :
    ∃ xs, ys = xs.map (Prod.map id g) ∧ ∀ s, part s xs = f s := by
  induction ys generalizing f with
  | nil => exact ⟨[], rfl, fun s => (List.map_eq_nil_iff.mp (h s).symm).symm⟩
  | cons y ys ih =>
    obtain ⟨t, y⟩ := y
    have ht := h t
    rw [part_cons_same] at ht
    obtain ⟨x, rest, hf, rfl, hrest⟩ := List.map_eq_cons_iff.mp ht.symm
    obtain ⟨xs, rfl, hparts⟩ := ih (f := fun s => if s = t then rest else f s) fun s => by
      by_cases hs : s = t
      · subst hs
        rw [if_pos rfl, hrest]
      · rw [if_neg hs, ← h s, part_cons_other (Ne.symm hs)]
    refine ⟨(t, x) :: xs, rfl, fun s => ?_⟩
    by_cases hs : s = t
    · subst hs
      rw [part_cons_same, hparts, if_pos rfl, hf]
    · rw [part_cons_other (Ne.symm hs), hparts, if_neg hs]

end

open ShellWorkers.Action

/-- The record of two streams is a merge of their lines; and if they carried texts, the output of a
session on this record is the same merge of the lines of the texts. -/
def RecordsLines (session : Session) (carried : Stream → List UInt8) (record : List UInt8) : Prop :=
  ∃ merged, Merges Capture.lineEnd carried record merged ∧
    ∀ texts : Stream → String, (∀ s, Text.decode? (carried s) = some (texts s)) →
      ∃ output lines, Runs session.outputText [⟨.output session.process, record⟩] (.ok output) ∧
        Merges '\n' (fun s => (texts s).toList) output.toList lines ∧
        merged = lines.map (Prod.map id octetsOfChars) ∧
        output.toList.count '\uFFFD' =
          (texts .output).toList.count '\uFFFD' + (texts .errors).toList.count '\uFFFD'

theorem decodeLossy_encode (s : String) : Text.decodeLossy (Text.encode s) = s := by
  have hpieces : (fun piece : Option Char => piece.getD '\uFFFD') ∘ some = id := rfl
  rw [Text.decodeLossy, Text.piecesOf_encode, List.map_map, hpieces, List.map_id,
    String.ofList_toList]

theorem recordsLines_of_merges (session : Session) {carried : Stream → List UInt8}
    {record : List UInt8} {merged : List (Stream × List UInt8)}
    (h : Merges Capture.lineEnd carried record merged) : RecordsLines session carried record := by
  refine ⟨merged, h, fun texts htexts => ?_⟩
  have hparts : ∀ s, part s merged = (cutBehind '\n' (texts s).toList).map octetsOfChars := by
    intro s
    have hlines : AreLines '\n' (texts s).toList (cutBehind '\n' (texts s).toList) :=
      areLines_iff.mpr rfl
    have hcarried : carried s = octetsOfChars (texts s).toList :=
      Text.decode?_eq_some_iff.mp (htexts s)
    have hoctets := h.lines s
    rw [hcarried] at hoctets
    exact (areLines_iff.mp hoctets).trans (areLines_iff.mp hlines.octets).symm
  obtain ⟨lines, hmerged, hlines⟩ := exists_map_of_parts octetsOfChars hparts
  have hrecord : record = Text.encode (String.ofList (lines.flatMap Prod.snd)) := by
    rw [h.whole, hmerged, Text.encode, String.toList_ofList, List.flatMap_map, List.flatMap_assoc]
    rfl
  have hmerges : Merges '\n' (fun s => (texts s).toList)
      (String.ofList (lines.flatMap Prod.snd)).toList lines :=
    ⟨fun s => areLines_iff.mpr (hlines s), String.toList_ofList⟩
  refine ⟨_, lines, ?_, hmerges, hmerged, ?_⟩
  · have hruns : Runs session.outputText [⟨.output session.process, record⟩]
        (.ok (Text.decodeLossy record)) := by
      let next (octets : Host.Answer (.output session.process)) :
          Host.Program (Except Failure String) := .done (.ok (Text.decodeLossy octets))
      exact Interaction.Runs.ask (Host.Request.output session.process) next record (.done _)
    rw [hrecord, decodeLossy_encode, ← hrecord] at hruns
    exact hruns
  · rw [hmerges.perm.count_eq, List.count_append]

theorem recordsLines_performAll (session : Session) {carried : Stream → List UInt8}
    {steps : List (Stream × ReaderStep)}
    (h : ∀ s, part s steps = ReaderStep.ofStream (carried s)) :
    RecordsLines session carried (Capture.empty.performAll steps).octets := by
  obtain ⟨merged, hparts, hoctets⟩ := Capture.empty.octets_performAll steps
  have hlines : ∀ s, AreLines Capture.lineEnd (carried s) (part s merged) := by
    intro s
    have hempty : Capture.empty.line s = [] := by cases s <;> rfl
    rw [hparts, h, hempty]
    exact ReaderStep.areLines_appended List.not_mem_nil (carried s)
  exact recordsLines_of_merges session ⟨hlines, hoctets⟩

/-- **The record is a merge of the lines of both streams.**  It is so for every order of the steps
of the two readers, and for every order in which a host hands over pieces of the streams and then
their ends. -/
theorem output_merges_lines (session : Session) (carried : Stream → List UInt8) :
    (∀ steps, (∀ s, part s steps = ReaderStep.ofStream (carried s)) →
      RecordsLines session carried (Capture.empty.performAll steps).octets) ∧
    ∀ calls, (∀ s, ∃ chunks : List (List UInt8), chunks.flatten = carried s ∧
        part s calls = chunks.map some ++ [none]) →
      RecordsLines session carried (calls.foldl Capture.handOver .empty).octets := by
  refine ⟨fun steps h => recordsLines_performAll session h, fun calls h => ?_⟩
  rw [Capture.foldl_handOver]
  refine recordsLines_performAll session fun s => ?_
  obtain ⟨chunks, hchunks, hcalls⟩ := h s
  rw [part_flatMap, hcalls, Capture.stepsOf_chunks, hchunks]

/-- what two streams carry of which one ends within a line -/
def sampleStreams : Stream → List UInt8
  | .output => Text.encode "a\nbé"
  | .errors => Text.encode "é\n"

/-- The steps of their readers: the line of the errors is begun within the first line of the output
and appended behind it. -/
def sampleSteps : List (Stream × ReaderStep) :=
  [(.errors, .take 195), (.output, .take 97), (.errors, .take 169), (.output, .take 10),
    (.output, .append), (.output, .take 98), (.errors, .take 10), (.output, .take 195),
    (.errors, .append), (.output, .take 169), (.errors, .append), (.output, .append)]

/-- the output of the first worker on the record of these steps -/
theorem output_merges_lines_sample :
    Text.decodeLossy (Capture.empty.performAll sampleSteps).octets = "a\né\nbé" ∧
      RecordsLines ⟨0, ⟨0⟩, "/build/status", .posix, none, 0, 1⟩ sampleStreams
        (Capture.empty.performAll sampleSteps).octets := by
  have hsteps : ∀ s, part s sampleSteps = ReaderStep.ofStream (sampleStreams s) := by
    intro s
    cases s <;> decide
  exact ⟨by decide, (output_merges_lines _ sampleStreams).1 sampleSteps hsteps⟩

end ShellWorkers
