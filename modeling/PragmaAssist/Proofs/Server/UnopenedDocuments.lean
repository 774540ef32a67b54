import PragmaAssist.Proofs.Server.CacheSteps
import PragmaAssist.Proofs.Text.Utf8Decoding

/-! Requests on documents that are not open. Such a document is read from disk, and the request is
answered if there is no file or the file is text; any other file costs all quick fixes. -/
namespace PragmaAssist

namespace Disk

def found? (d : Disk) (path : Text) : Option DiskEntry := (d.locate? path).bind d.entry?

/-- What the disk gives as a document's contents: nothing where no file is, and else the text that
the file is the encoding of, with its line breaks as line feeds. -/
inductive Gives (d : Disk) (path : Text) : Option Text → Prop
  | noFile (h : ∀ bytes, d.found? path ≠ some (.file bytes)) : Gives d path none
  | file (t : Text) (h : d.found? path = some (.file (Text.encode t))) :
      Gives d path (some t.normaliseBreaks)

theorem read?_eq_ok_iff {d : Disk} {path : Text} {contents : Option Text} :
    d.read? path = .ok contents ↔ '\x00' ∉ path ∧ d.Gives path contents := by
  by_cases hnul : '\x00' ∈ path
  · simp [read?, hnul]
  rw [read?, if_neg hnul, and_iff_right hnul, ← found?]
  constructor
  · intro h
    split at h
    · rename_i bytes hfile
      split at h
      · rename_i t ht
        obtain rfl := Text.decode_eq_ok_iff.1 ht
        obtain rfl := Except.ok.inj h
        exact .file t hfile
      · simp at h
    · rename_i hfile
      obtain rfl := Except.ok.inj h
      exact .noFile hfile
  · intro h
    cases h with
    | noFile h =>
      split
      · rename_i bytes hfile
        exact absurd hfile (h bytes)
      · rfl
    | file t h => simp only [h, Text.decode_eq_ok_iff.2 rfl]

end Disk

namespace Uri

def namesFile (uri : Uri) : Bool := (splitScheme (cleaned uri)).1 == "file".toList

theorem isFile_of_address {uri : Uri} {a : Address} (h : address uri = .ok a) :
    a.isFile = uri.namesFile := by
  unfold address at h
  simp only at h
  split at h
  · obtain rfl := Except.ok.inj h
    rfl
  · simp at h

end Uri

namespace Server

def Finds (s : Server) (uri : Uri) (contents : Option Text) : Prop :=
  s.documents.isSome ∧ ∃ a, Uri.address uri = .ok a ∧ '\x00' ∉ a.filePath ∧
    s.disk.Gives a.filePath contents

structure Unopened (s : Server) (uri : Uri) : Prop where
  namesFile : Uri.namesFile uri = true
  notOpen : ∀ ds, s.documents = some ds → ds.get? (Uri.decoded uri) = none

theorem contents?_eq_ok_iff {s : Server} {uri : Uri} (h : s.Unopened uri) {contents : Option Text} :
    s.contents? uri = .ok contents ↔ s.Finds uri contents := by
  obtain ⟨hfile, hnot⟩ := h
  cases ha : Uri.address uri with
  | error f => simp [contents?, Finds, ha, bind, Except.bind]
  | ok a =>
    have hisFile := (Uri.isFile_of_address ha).trans hfile
    cases hds : s.documents with
    | none => simp [contents?, Finds, ha, hisFile, openDocuments, hds, bind, Except.bind]
    | some ds =>
      have hread : s.contents? uri = s.disk.read? a.filePath := by
        simp [contents?, ha, hisFile, openDocuments, hds, Documents.text?, hnot ds hds, bind,
          Except.bind]
      rw [hread, Disk.read?_eq_ok_iff]
      simp [Finds, ha, hds]

theorem snapshot_contents (look : FlagsLookup) (uri : Uri) (s : Server) :
    (snapshot look uri s).1.map Snapshot.contents = s.contents? uri := by
  rw [snapshot_eq]
  rcases s.contents? uri with f | _ | c <;> rfl

theorem receive_codeAction (look : FlagsLookup) (id : Json) (r : CodeActionRequest) (s : Server)
    (hs : s.capable = true) (hd : r.diagnostics ≠ []) :
    receive look (.codeAction id r) s =
      match snapshot look r.uri s with
      | (.error f, s') => ([.log (refusedEntry f), .response id (.codeActions [])], s')
      | (.ok known, s') =>
        ([.response id (.codeActions (actionsFor s'.catalog s'.settings r known))], s') := by
  have hd' : r.diagnostics.isEmpty = false := by simpa using hd
  rw [receive, codeActions_eq look r s hs hd']
  generalize snapshot look r.uri s = known
  obtain ⟨f | known, s'⟩ := known <;> rfl

/-- The request is answered, and nothing is logged: the actions are all those for a document of
these contents and its flags, or with no contents all those for no flags, at the first line. -/
def Answered (s : Server) (id : Json) (r : CodeActionRequest) (contents : Option Text) : Prop :=
  ∃ flags s', snapshot cachedLookup r.uri s = (.ok ⟨flags, contents⟩, s') ∧
    receive cachedLookup (.codeAction id r) s =
      ([.response id (.codeActions (actionsFor s.catalog s.settings r ⟨flags, contents⟩))], s') ∧
    match contents with
    | some c => (flags, s') = cachedLookup r.uri c s
    | none => flags = none ∧ s' = s ∧
      ∀ a ∈ actionsFor s.catalog s.settings r ⟨none, none⟩, a.range = ⟨⟨0, 0⟩, ⟨0, 0⟩⟩

def Refused (s : Server) (id : Json) (r : CodeActionRequest) (f : Failure) : Prop :=
  snapshot cachedLookup r.uri s = (.error f, s) ∧
    receive cachedLookup (.codeAction id r) s =
      ([.log (refusedEntry f), .response id (.codeActions [])], s)

variable {s : Server} {r : CodeActionRequest}

theorem answered_iff (hs : s.capable = true) (hd : r.diagnostics ≠ []) (id : Json)
    (contents : Option Text) : s.Answered id r contents ↔ s.contents? r.uri = .ok contents := by
  constructor
  · rintro ⟨flags, s', hknown, -⟩
    rw [← snapshot_contents cachedLookup, hknown]
    rfl
  · intro h
    have hreceive := receive_codeAction cachedLookup id r s hs hd
    have hsnapshot := snapshot_eq cachedLookup r.uri s
    rw [h] at hsnapshot
    cases contents with
    | none =>
      simp only [hsnapshot] at hreceive
      refine ⟨none, s, hsnapshot, hreceive, rfl, rfl, fun a ha => ?_⟩
      obtain ⟨f, -, rfl⟩ := List.mem_map.1 ha
      rfl
    | some c =>
      simp only [hsnapshot] at hreceive
      obtain ⟨k, hk⟩ := cachedLookup_onlyCache r.uri c s
      refine ⟨_, _, hsnapshot, ?_, rfl⟩
      rw [hreceive, hk]
      rfl

theorem refused_iff (hs : s.capable = true) (hd : r.diagnostics ≠ []) (id : Json) (f : Failure) :
    s.Refused id r f ↔ s.contents? r.uri = .error f := by
  constructor
  · rintro ⟨hknown, -⟩
    rw [← snapshot_contents cachedLookup, hknown]
    rfl
  · intro h
    have hreceive := receive_codeAction cachedLookup id r s hs hd
    have hsnapshot := snapshot_eq cachedLookup r.uri s
    simp only [h] at hsnapshot
    simp only [hsnapshot] at hreceive
    exact ⟨hsnapshot, hreceive⟩

/-- For a file that is not open a request is answered in full just if the disk gives contents, or
has no file there. Bytes that are no text, and an address that is none of a path, cost all its
actions. -/
theorem answered_iff_finds (h : s.Unopened r.uri) (hs : s.capable = true)
    (hd : r.diagnostics ≠ []) (id : Json) :
    (∀ contents, s.Answered id r contents ↔ s.Finds r.uri contents) ∧
      ((¬ ∃ contents, s.Finds r.uri contents) ↔ ∃ f, s.Refused id r f) := by
  refine ⟨fun contents => (answered_iff hs hd id contents).trans (contents?_eq_ok_iff h), ?_⟩
  simp only [← contents?_eq_ok_iff h, refused_iff hs hd id]
  cases s.contents? r.uri <;> simp

theorem actionsFor_ne_nil {catalog : Catalog} {settings : Settings} {known : Snapshot}
    {d : Diagnostic} {w : Text} (hd : d ∈ r.diagnostics) (hw : QuickFix.warning? d = some w)
    (hkept : w ∉ settings.warningBlacklist) : actionsFor catalog settings r known ≠ [] := by
  have hfix : QuickFix.silence w ∈ r.diagnostics.flatMap
      (QuickFix.forDiagnostic catalog known.flags settings.warningBlacklist) := by
    refine List.mem_flatMap.2 ⟨d, hd, List.mem_append_right _ ?_⟩
    rw [QuickFix.forWarning, hw]
    simp [hkept]
  obtain ⟨f, fs, hfs⟩ := List.exists_cons_of_ne_nil (List.ne_nil_of_mem hfix)
  simp [actionsFor, QuickFix.forAll, hfs, QuickFix.withoutRepeats]

/-- A file of one byte that starts no character: the warning could be switched off without its
contents, but there is no action. -/
theorem undecodable_refused :
    let path := "/m.hs".toList
    let s := (run [.message (.initialization .null .null .empty .absent),
      .query (.place path (some (.file [0xFF])))] fresh).2
    let r : CodeActionRequest :=
      ⟨"file:///m.hs".toList, [⟨[], some "-Wunused-imports".toList⟩]⟩
    let f := Failure.undecodable ⟨0xFF, 0, 1, .invalidStart⟩
    s.Unopened r.uri ∧ s.disk.found? path = some (.file [0xFF]) ∧ s.Refused .null r f ∧
      actionsFor s.catalog s.settings r ⟨none, none⟩ ≠ [] ∧
      ¬ ∃ contents, s.Answered .null r contents := by
  intro path s r f
  have hs : s.capable = true := rfl
  have hd : r.diagnostics ≠ [] := List.cons_ne_nil _ _
  have hread : s.contents? r.uri = .error f := rfl
  refine ⟨⟨by decide, fun ds hds => ?_⟩, by decide, (refused_iff hs hd .null f).2 hread, ?_, ?_⟩
  · obtain rfl := Option.some.inj hds
    rfl
  · exact actionsFor_ne_nil List.mem_cons_self rfl (by decide)
  · rintro ⟨contents, h⟩
    rw [answered_iff hs hd, hread] at h
    cases h

theorem answered_iff_finds_carriage_returns :
    let u := "file:///m.hs".toList
    let t := "{-# LANGUAGE GADTs #-}\r\nmodule M where\r\n".toList
    let s := (run [.message (.initialization .null .null .empty .absent),
      .query (.place "/m.hs".toList (some (.file (Text.encode t))))] fresh).2
    let r : CodeActionRequest := ⟨u, [⟨"use GADTs or Arrows".toList, none⟩]⟩
    s.Unopened u ∧ s.capable = true ∧ r.diagnostics ≠ [] ∧
      s.Answered .null r (some "{-# LANGUAGE GADTs #-}\nmodule M where\n".toList) := by
  intro u t s r
  have hunopened : s.Unopened u := by
    refine ⟨by decide, fun ds hds => ?_⟩
    obtain rfl := Option.some.inj hds
    rfl
  have hs : s.capable = true := rfl
  have hd : r.diagnostics ≠ [] := List.cons_ne_nil _ _
  refine ⟨hunopened, hs, hd, ((answered_iff_finds hunopened hs hd .null).1 _).2 ?_⟩
  exact (contents?_eq_ok_iff hunopened).1 rfl

end Server
end PragmaAssist
