import PragmaAssist.Proofs.Header.BlockText
import PragmaAssist.Proofs.Header.WrittenNames

/-! Extension pragmas in any layout: blanks and line breaks around the keyword, the names and the
commas. The reader sees another layout of the same names, and takes the names alone. -/
namespace PragmaAssist
namespace Text

theorem pieces_eq_splitOn (separator : Char) (t : Text) :
    t.pieces separator = t.splitOn separator := by
  induction t with
  | nil => rfl
  | cons c t ih =>
    obtain ⟨p, ps, hps⟩ := List.exists_cons_of_ne_nil (List.splitOnP_ne_nil (· == separator) t)
    rw [pieces, ih, List.splitOn, List.splitOn, List.splitOnP_cons_eq_if_modifyHead, hps]
    simp only [beq_iff_eq]
    rfl

end Text

structure ListedName where
  before : Text
  name : Text
  after : Text
  before_blank : before.Blank
  after_blank : after.Blank
  name_ne_nil : name ≠ []
  name_solid : name.Solid
  comma_not_mem : ',' ∉ name
  hash_not_mem : '#' ∉ name

namespace ListedName

def text (n : ListedName) : Text := n.before ++ n.name ++ n.after

theorem not_mem_text (n : ListedName) {c : Char} (hc : isBlank c = false) (hn : c ∉ n.name) :
    c ∉ n.text := by
  have hblank {w : Text} (hw : w.Blank) : c ∉ w := fun h => by simpa [hc] using hw c h
  simp [text, hn, hblank n.before_blank, hblank n.after_blank]

theorem trim_text (n : ListedName) : n.text.trim = n.name := by
  rw [text, Text.trim_append_blank n.after_blank, Text.trim_blank_append n.before_blank,
    Text.trim_solid n.name_solid]

theorem name_unbroken (n : ListedName) : n.name.Unbroken :=
  fun c hc => not_isLineBreak_of_not_isBlank (n.name_solid c hc)

theorem writable (n : ListedName) : Writable n.name where
  ne_nil := n.name_ne_nil
  unbroken := n.name_unbroken
  comma_not_mem := n.comma_not_mem
  closer_not_in := Header.closer_not_occursIn n.hash_not_mem List.infix_rfl
  trim_eq := Text.trim_solid n.name_solid

/-- In front of another character a name stays, with blanks around it. -/
theorem exists_restOnOneLine (n : ListedName) {c : Char} (hc : isBlank c = false) (t : Text) :
    ∃ m : ListedName, m.name = n.name ∧ (m.before = [] → n.before = []) ∧
      Text.restOnOneLine (n.text ++ c :: t) = m.text ++ Text.restOnOneLine (c :: t) := by
  obtain ⟨u, hu, hnil, hbefore⟩ := Text.restOnOneLine_blank_solid n.before_blank n.name_solid
    n.name_ne_nil (n.after ++ c :: t)
  obtain ⟨v, hv, -, hafter⟩ := Text.restOnOneLine_blank n.after_blank hc t
  refine ⟨{ n with before := u, after := v, before_blank := hu, after_blank := hv }, rfl, hnil, ?_⟩
  have hsplit : n.text ++ c :: t = n.before ++ (n.name ++ (n.after ++ c :: t)) := by
    simp only [text, List.append_assoc]
  rw [hsplit, hbefore, hafter]
  simp only [text, List.append_assoc]

def listText (ns : List ListedName) : Text := [','].intercalate (ns.map text)

theorem listText_cons_cons (n m : ListedName) (ns : List ListedName) :
    listText (n :: m :: ns) = n.text ++ ',' :: listText (m :: ns) := by
  rw [listText, List.map_cons, List.map_cons, List.intercalate_cons_cons]
  simp [listText]

theorem listText_singleton (n : ListedName) : listText [n] = n.text := by
  simp [listText]

theorem prefix_listText (n : ListedName) (ns : List ListedName) : n.before <+: listText (n :: ns) := by
  have htext : n.before <+: n.text := (List.prefix_append _ _).trans (List.prefix_append _ _)
  cases ns with
  | nil => rwa [listText_singleton]
  | cons m ns => exact listText_cons_cons n m ns ▸ htext.trans (List.prefix_append _ _)

theorem hash_not_mem_listText (ns : List ListedName) : '#' ∉ listText ns := by
  induction ns with
  | nil => simp [listText]
  | cons n ns ih =>
    have hn : '#' ∉ n.text := n.not_mem_text (by decide) n.hash_not_mem
    cases ns with
    | nil => rwa [listText_singleton]
    | cons m ns => simpa [listText_cons_cons, hn] using ih

theorem names_listText {ns : List ListedName} (hne : ns ≠ []) :
    (((listText ns).pieces ',').map Text.trim).filter (!·.isEmpty) = ns.map name := by
  have hcomma : ∀ t ∈ ns.map text, ',' ∉ t := by
    intro t ht
    obtain ⟨n, -, rfl⟩ := List.mem_map.1 ht
    exact n.not_mem_text (by decide) n.comma_not_mem
  rw [Text.pieces_eq_splitOn, listText, List.splitOn_intercalate ',' hcomma (by simpa using hne),
    List.map_map]
  have hname : Text.trim ∘ text = name := funext trim_text
  rw [hname, List.filter_eq_self]
  intro x hx
  obtain ⟨n, -, rfl⟩ := List.mem_map.1 hx
  simpa using n.name_ne_nil

theorem exists_restOnOneLine_list (n : ListedName) (ns : List ListedName) :
    ∃ m ms, (m :: ms).map name = (n :: ns).map name ∧ (m.before = [] → n.before = []) ∧
      Text.restOnOneLine (listText (n :: ns) ++ Pragma.closer) =
        listText (m :: ms) ++ Pragma.closer := by
  induction ns generalizing n with
  | nil =>
    obtain ⟨m, hname, hbefore, hrest⟩ :=
      n.exists_restOnOneLine (c := '#') (by decide) ['-', '}']
    refine ⟨m, [], by simp [hname], hbefore, ?_⟩
    rw [listText_singleton, listText_singleton]
    exact hrest
  | cons k ns ih =>
    obtain ⟨l, ls, hnames, -, hlist⟩ := ih k
    obtain ⟨m, hname, hbefore, hrest⟩ :=
      n.exists_restOnOneLine (c := ',') (by decide) (listText (k :: ns) ++ Pragma.closer)
    have hcomma : isBlank ',' = false := by decide
    refine ⟨m, l :: ls, by rw [List.map_cons, hname, hnames]; rfl, hbefore, ?_⟩
    rw [listText_cons_cons, List.append_assoc, List.cons_append, hrest,
      Text.restOnOneLine_cons hcomma, hlist, listText_cons_cons, List.append_assoc,
      List.cons_append]

end ListedName

/-- An extension pragma with blanks and line breaks at will. -/
structure Layout where
  gap : Text
  first : ListedName
  others : List ListedName
  gap_blank : gap.Blank
  first_before_ne_nil : first.before ≠ []

namespace Layout
open ListedName

def names (l : Layout) : List Text := (l.first :: l.others).map name

def inside (l : Layout) : Text :=
  l.gap ++ (PragmaKind.language.name ++ listText (l.first :: l.others))

def text (l : Layout) : Text := Pragma.opener ++ (l.inside ++ Pragma.closer)

theorem onOneLine_opener (t : Text) :
    (Pragma.opener ++ t).onOneLine = Pragma.opener ++ t.restOnOneLine := by
  have hsolid : isBlank '{' = false ∧ isBlank '-' = false ∧ isBlank '#' = false := by decide
  simp [Pragma.opener, Text.onOneLine_cons, Text.restOnOneLine_cons, hsolid]

theorem language_solid : Text.Solid PragmaKind.language.name := by decide

theorem hash_not_mem_inside (l : Layout) : '#' ∉ l.inside := by
  have hgap : '#' ∉ l.gap := fun h => Bool.noConfusion (l.gap_blank '#' h)
  have hkeyword : '#' ∉ PragmaKind.language.name := by decide
  simp [inside, hgap, hkeyword, hash_not_mem_listText]

/-- Written on one line the pragma has another layout of the same names. -/
theorem exists_onOneLine (l : Layout) :
    ∃ m : Layout, m.names = l.names ∧ l.text.onOneLine = m.text := by
  obtain ⟨n, ns, hnames, hbefore, hlist⟩ := exists_restOnOneLine_list l.first l.others
  obtain ⟨u, hu, -, hgap⟩ := Text.restOnOneLine_blank_solid l.gap_blank language_solid (by decide)
    (listText (l.first :: l.others) ++ Pragma.closer)
  refine ⟨⟨u, n, ns, hu, fun h => l.first_before_ne_nil (hbefore h)⟩, hnames, ?_⟩
  rw [hlist] at hgap
  simp only [text, inside, onOneLine_opener, List.append_assoc, hgap]

theorem languageNames_text (l : Layout) (rest : Text) :
    Header.languageNames (l.text ++ rest) = l.names := by
  have hlist : '#' ∉ listText (l.first :: l.others) := hash_not_mem_listText _
  have hopen : l.text ++ rest = Pragma.opener ++ (l.gap ++ (PragmaKind.language.name ++
      (listText (l.first :: l.others) ++ (Pragma.closer ++ rest)))) := by
    simp only [text, inside, List.append_assoc]
  have hkeyword (t : Text) : (l.gap ++ (PragmaKind.language.name ++ t)).trimStart =
      PragmaKind.language.name ++ t :=
    (Text.trimStart_blank l.gap_blank _).trans (Text.trimStart_cons (by decide) _)
  have hword : (listText (l.first :: l.others) ++ (Pragma.closer ++ rest)).atWordEnd = true := by
    -- The list starts with a blank, which ends the keyword.
    obtain ⟨d, w, hd⟩ := List.exists_cons_of_ne_nil l.first_before_ne_nil
    obtain ⟨r, hr⟩ := prefix_listText l.first l.others
    have hblank : isBlank d = true := l.first.before_blank d (by simp [hd])
    rw [← hr, hd]
    simp only [List.cons_append, Text.atWordEnd, isWordChar_of_isBlank hblank, Bool.not_false]
  have hbefore : (listText (l.first :: l.others) ++ (Pragma.closer ++ rest)).before? Pragma.closer =
      some (listText (l.first :: l.others)) :=
    Text.before?_append '#' ['-', '}'] hlist rest
  have hbody : Header.languageBody? (l.text ++ rest) =
      some (listText (l.first :: l.others)) := by
    rw [Header.languageBody?, hopen, Text.after?_append]
    simp only [Option.bind_eq_bind, Option.bind_some]
    rw [hkeyword, Text.after?_append, Option.bind_some, if_pos hword, hbefore]
  rw [Header.languageNames, hbody]
  exact names_listText (List.cons_ne_nil _ _)

end Layout

end PragmaAssist
