import PragmaAssist.Proofs.Server.CompletionRequests
import PragmaAssist.Proofs.Text.LastName

/-! The line and the name at a cursor. They are those of the document kept under the address as it
is written, with columns counted in characters; an editor that writes the address another way, or
counts code units, may be given those of another place. -/
namespace PragmaAssist

namespace Text
variable {line : Text} {k : Nat}

def isAstral (c : Char) : Bool := 0xFFFF < c.toNat

/-- The number of UTF-16 code units, in which editors count columns. -/
def units16 : Text → Nat
  | [] => 0
  | c :: r => (if isAstral c then 2 else 1) + units16 r

theorem units16_eq (t : Text) : t.units16 = t.length + t.countP isAstral := by
  induction t with
  | nil => rfl
  | cons c t ih =>
    rw [units16, ih, List.length_cons, List.countP_cons]
    split <;> omega

/-- The characters behind the first `k` that are taken in with them when their code units are
counted as characters. -/
def overrun (line : Text) (k : Nat) : Text :=
  (line.drop k).take ((line.take k).countP isAstral)

theorem take_units16 (hk : k ≤ line.length) :
    line.take (units16 (line.take k)) = line.take k ++ line.overrun k := by
  rw [units16_eq, List.length_take_of_le hk, List.take_add]
  rfl

end Text

namespace CursorWord
variable {text : Text} {p : Position} {w v : CursorWord}

/-- The cursor's line, and the longest name that stands right before the cursor. -/
structure IsAt (text : Text) (p : Position) (w : CursorWord) : Prop where
  line : text.lines[p.line]? = some w.line
  unbroken : w.line.Unbroken
  word : Text.IsLastName (w.line.take p.character) w.word
  before : ∀ r c, w.line.take p.character = r ++ c :: w.word → isNameChar c = false

theorem IsAt.unique (h : IsAt text p w) (h' : IsAt text p v) : w = v := by
  obtain ⟨line, word⟩ := w
  obtain ⟨line', word'⟩ := v
  obtain rfl : line = line' := Option.some.inj (h.line.symm.trans h'.line)
  obtain rfl : word = word' := h.word.unique h'.word
  rfl

theorem isAt_lastName {line : Text} (h : text.lines[p.line]? = some line) :
    IsAt text p ⟨line, Text.lastName (line.take p.character)⟩ := by
  have hline : line.Unbroken := Text.unbroken_of_mem_lines (List.mem_of_getElem? h)
  have hword : Text.IsLastName (line.take p.character) (Text.lastName (line.take p.character)) :=
    Text.isLastName_lastName fun c hc => hline c (List.mem_of_mem_take hc)
  exact ⟨h, hline, hword, fun r c => hword.not_isNameChar_before⟩

theorem at?_eq_some_iff : at? text p = some w ↔ IsAt text p w := by
  constructor
  · intro h
    obtain ⟨line, hline, rfl⟩ := Option.map_eq_some_iff.1 h
    exact isAt_lastName hline
  · intro h
    rw [at?, h.line, Option.map_some, (isAt_lastName h.line).unique h]

theorem bind_at? (text? : Option Text) (p : Position) :
    text?.bind (at? · p) = (text?.bind (·.lines[p.line]?)).map fun line =>
      ⟨line, Text.lastName (line.take p.character)⟩ := by
  cases text? <;> rfl

theorem map_lastName_injective (p : Position) :
    Function.Injective (Option.map fun line : Text =>
      (⟨line, Text.lastName (line.take p.character)⟩ : CursorWord)) :=
  Option.map_injective fun _ _ h => congrArg CursorWord.line h

theorem at?_eq_none_iff : at? text p = none ↔ text.lines.length ≤ p.line := by
  rw [at?, Option.map_eq_none_iff, List.getElem?_eq_none_iff]

end CursorWord

/-- What a cursor is to be answered where this text, if any, is that of the open document. -/
structure CursorAnswer (isFile : Bool) (text? : Option Text) (p : Position)
    (answer : Option CursorWord) : Prop where
  none_iff : answer = none ↔
    isFile = false ∨ text? = none ∨ ∃ text, text? = some text ∧ text.lines.length ≤ p.line
  isAt : ∀ w, answer = some w → ∃ text, text? = some text ∧ w.IsAt text p

theorem cursorAnswer_iff {isFile : Bool} {text? : Option Text} {p : Position}
    {answer : Option CursorWord} : CursorAnswer isFile text? p answer ↔
      answer = if isFile then text?.bind (CursorWord.at? · p) else none := by
  constructor
  · intro h
    cases answer with
    | none =>
      rcases h.none_iff.1 rfl with rfl | rfl | ⟨text, rfl, hlength⟩
      · rfl
      · exact (ite_self none).symm
      · rw [Option.bind_some, CursorWord.at?_eq_none_iff.2 hlength, ite_self]
    | some w =>
      obtain ⟨text, rfl, hw⟩ := h.isAt w rfl
      cases isFile with
      | false => exact absurd (h.none_iff.2 (.inl rfl)) (Option.some_ne_none w)
      | true => exact (CursorWord.at?_eq_some_iff.2 hw).symm
  · rintro rfl
    cases isFile with
    | false => exact ⟨by simp, fun w hw => by simp at hw⟩
    | true =>
      cases text? with
      | none => exact ⟨by simp, fun w hw => by simp at hw⟩
      | some text =>
        refine ⟨?_, fun w hw => ⟨text, rfl, CursorWord.at?_eq_some_iff.1 hw⟩⟩
        simp [CursorWord.at?_eq_none_iff]

namespace Server
variable {s : Server} {uri : Uri} {text line : Text}

/-- The text of the document that is open at an address, in whatever way this is written. -/
def openText? (s : Server) (uri : Uri) : Option Text :=
  s.documents.bind (·.get? (Uri.decoded uri))

/-- The text of the document that is kept under an address as it is written. -/
def keptText? (s : Server) (uri : Uri) : Option Text := s.documents.bind (·.buffer? uri)

structure CanLookUp (s : Server) (uri : Uri) : Prop where
  wellFormed : ∃ a, Uri.address uri = .ok a
  initialized : uri.namesFile = true → s.documents.isSome = true

theorem cursorWord?_of_canLookUp (h : s.CanLookUp uri) (p : Position) :
    s.cursorWord? uri p =
      .ok (if uri.namesFile then (s.keptText? uri).bind (CursorWord.at? · p) else none) := by
  obtain ⟨⟨a, ha⟩, hready⟩ := h
  rw [cursorWord?_eq, ha, openDocuments, keptText?]
  cases hfile : uri.namesFile with
  | false => rfl
  | true =>
    obtain ⟨ds, hds⟩ := Option.isSome_iff_exists.1 (hready hfile)
    rw [hds]
    rfl

theorem canLookUp_of_ok {p : Position} {w : Option CursorWord}
    (h : s.cursorWord? uri p = .ok w) : s.CanLookUp uri := by
  have hno : ¬ ∃ f, s.cursorWord? uri p = .error f := fun ⟨f, hf⟩ => by
    rw [h] at hf
    cases hf
  rw [cursorWord?_eq_error_iff, not_or] at hno
  refine ⟨?_, fun hfile => ?_⟩
  · cases ha : Uri.address uri with
    | ok a => exact ⟨a, rfl⟩
    | error f => exact absurd ⟨f, ha⟩ hno.1
  · exact Option.isSome_iff_ne_none.2 fun hnone => hno.2 ⟨hfile, hnone⟩

theorem cursorWord?_eq_ok_iff {p : Position} {w : Option CursorWord} :
    s.cursorWord? uri p = .ok w ↔
      s.CanLookUp uri ∧ CursorAnswer uri.namesFile (s.keptText? uri) p w := by
  rw [cursorAnswer_iff]
  constructor
  · intro h
    have hup := canLookUp_of_ok h
    rw [cursorWord?_of_canLookUp hup] at h
    exact ⟨hup, (Except.ok.inj h).symm⟩
  · rintro ⟨hup, rfl⟩
    exact cursorWord?_of_canLookUp hup p

/-- The look-up answers just as the document that is kept under the address as it is written. That is
the answer for the open document just if the two have the same line there, or both have none. -/
theorem cursorWord?_answers (s : Server) (uri : Uri) (p : Position) :
    (∀ w, s.cursorWord? uri p = .ok w ↔
        s.CanLookUp uri ∧ CursorAnswer uri.namesFile (s.keptText? uri) p w) ∧
      ((∃ w, s.cursorWord? uri p = .ok w ∧ CursorAnswer uri.namesFile (s.openText? uri) p w) ↔
        s.CanLookUp uri ∧ (uri.namesFile = true →
          (s.keptText? uri).bind (·.lines[p.line]?) = (s.openText? uri).bind (·.lines[p.line]?))) := by
  refine ⟨fun w => cursorWord?_eq_ok_iff, ?_⟩
  simp only [cursorWord?_eq_ok_iff, cursorAnswer_iff, CursorWord.bind_at?]
  constructor
  · rintro ⟨w, ⟨hup, hkept⟩, hopen⟩
    refine ⟨hup, fun hfile => CursorWord.map_lastName_injective p ?_⟩
    rw [hfile, if_pos rfl] at hkept hopen
    exact hkept.symm.trans hopen
  · rintro ⟨hup, hsame⟩
    refine ⟨_, ⟨hup, rfl⟩, ?_⟩
    cases hfile : uri.namesFile with
    | false => rfl
    | true => rw [hsame hfile]

/-- A document opened under an address with an escaped blank is not found under that address. -/
theorem cursorWord?_escaped :
    let uri : Uri := "file:///My%20Mod.hs".toList
    let text : Text := "\x7b-# LANGUAGE Lam\n".toList
    let s := (run [.message (.initialization .null .null .empty .absent),
      .message (.opened uri text)] fresh).2
    let p : Position := ⟨0, 16⟩
    s.CanLookUp uri ∧ s.openText? uri = some text ∧ s.cursorWord? uri p = .ok none ∧
      ¬ ∃ w, s.cursorWord? uri p = .ok w ∧ CursorAnswer uri.namesFile (s.openText? uri) p w := by
  intro uri text s p
  have hup : s.CanLookUp uri := ⟨⟨_, rfl⟩, fun _ => rfl⟩
  have hopen : s.openText? uri = some text := rfl
  have hword : s.cursorWord? uri p = .ok none := rfl
  refine ⟨hup, hopen, hword, ?_⟩
  rintro ⟨w, hw, hanswer⟩
  obtain rfl : none = w := Except.ok.inj (hword.symm.trans hw)
  rw [hopen] at hanswer
  rcases hanswer.none_iff.1 rfl with hfile | hnone | ⟨t, ht, hlength⟩
  · exact absurd hfile (by decide)
  · cases hnone
  · obtain rfl := Option.some.inj ht
    exact absurd hlength (by decide)

structure Keeps (s : Server) (uri : Uri) (text : Text) : Prop where
  canLookUp : s.CanLookUp uri
  namesFile : uri.namesFile = true
  kept : s.keptText? uri = some text

/-- A cursor given in code units: the name is that before the cursor just if no astral character
stands before it on the line, or nothing behind it, or if the characters taken in too end in the same
name behind another character. -/
theorem cursorWord?_units16 {l k : Nat} (h : s.Keeps uri text) (hline : text.lines[l]? = some line)
    (hk : k ≤ line.length) :
    ∃ w, s.cursorWord? uri ⟨l, Text.units16 (line.take k)⟩ = .ok (some w) ∧ w.line = line ∧
      (Text.IsLastName (line.take k) w.word ↔
        line.overrun k = [] ∨ (∃ c ∈ line.overrun k, isNameChar c = false) ∧
          ∃ u, Text.IsLastName (line.take k) u ∧ Text.IsLastName (line.overrun k) u) := by
  obtain ⟨w, hat, rfl⟩ : ∃ w, CursorWord.IsAt text ⟨l, Text.units16 (line.take k)⟩ w ∧
      w.line = line := ⟨_, CursorWord.isAt_lastName hline, rfl⟩
  refine ⟨w, ?_, rfl, ?_⟩
  · rw [cursorWord?_of_canLookUp h.canLookUp, h.namesFile, if_pos rfl, h.kept, Option.bind_some,
      CursorWord.at?_eq_some_iff.2 hat]
  · have hword : Text.IsLastName (w.line.take k ++ w.line.overrun k) w.word := by
      rw [← Text.take_units16 hk]
      exact hat.word
    have hunbroken : Text.Unbroken (w.line.take k) := fun c hc =>
      hat.unbroken c (List.mem_of_mem_take hc)
    exact hword.front_iff (Text.isLastName_lastName hunbroken)

/-- An astral character on the line, with the cursor behind a name and before a blank. -/
theorem cursorWord?_units16_astral :
    let uri : Uri := "file:///m.hs".toList
    let line : Text := "\x7b-# OPTIONS_GHC -DNAME=😀 -Wun #-\x7d".toList
    let s := (run [.message (.initialization .null .null .empty .absent),
      .message (.opened uri (line ++ ['\n']))] fresh).2
    let p : Position := ⟨0, Text.units16 (line.take 29)⟩
    s.Keeps uri (line ++ ['\n']) ∧ Text.IsLastName (line.take 29) "Wun".toList ∧
      ¬ ∃ w, s.cursorWord? uri p = .ok (some w) ∧ Text.IsLastName (line.take 29) w.word := by
  intro uri line s p
  have hname : Text.IsLastName (line.take 29) "Wun".toList := Text.isLastName_lastName (by decide)
  have hword : s.cursorWord? uri p = .ok (some ⟨line, []⟩) := rfl
  refine ⟨⟨⟨⟨_, rfl⟩, fun _ => rfl⟩, by decide, rfl⟩, hname, ?_⟩
  rintro ⟨w, hw, hlast⟩
  obtain rfl : ⟨line, []⟩ = w := Option.some.inj (Except.ok.inj (hword.symm.trans hw))
  exact absurd (hlast.unique hname) (by decide)

theorem cursorWord?_units16_end :
    let uri : Uri := "file:///m.hs".toList
    let line : Text := "\x7b-# OPTIONS_GHC -DNAME=😀 -Wun".toList
    let s := (run [.message (.initialization .null .null .empty .absent),
      .message (.opened uri (line ++ ['\n']))] fresh).2
    let p : Position := ⟨0, Text.units16 (line.take 29)⟩
    s.Keeps uri (line ++ ['\n']) ∧ (Text.lines (line ++ ['\n']))[0]? = some line ∧
      29 ≤ line.length ∧
      ∃ w, s.cursorWord? uri p = .ok (some w) ∧ w.line = line ∧
        Text.IsLastName (line.take 29) w.word := by
  intro uri line s p
  have hkeeps : s.Keeps uri (line ++ ['\n']) := ⟨⟨⟨_, rfl⟩, fun _ => rfl⟩, by decide, rfl⟩
  have hline : (Text.lines (line ++ ['\n']))[0]? = some line := rfl
  have hlength : 29 ≤ line.length := by decide
  obtain ⟨w, hw, hwline, hiff⟩ := cursorWord?_units16 hkeeps hline hlength
  exact ⟨hkeeps, hline, hlength, w, hw, hwline, hiff.2 (.inl (by decide))⟩

end Server
end PragmaAssist
