import PragmaAssist.Header.Scan

/-! The scan of a header in two parts: a scan of the lines above goes on with the lines below unless
it has met a body line, and the block that is open goes over with it. -/
namespace PragmaAssist
namespace Header

theorem Scan.after_after (s : Scan) (p q : List Text) : (s.after q).after p = s.after (p ++ q) := by
  simp [Scan.after]

def Scan.continueWith (s : Scan) (below : List Text) : Scan :=
  match s.ending with
  | .body => s
  | .exhausted => (scanFrom none below).after s.pragmas
  | .unterminated b => (scanFrom (some b) below).after s.pragmas

theorem Scan.continueWith_after (s : Scan) (p below : List Text) :
    (s.after p).continueWith below = (s.continueWith below).after p := by
  obtain ⟨q, e⟩ := s
  cases e <;> simp [Scan.continueWith, Scan.after]

theorem scanFrom_append (open? : Option OpenBlock) (above below : List Text) :
    scanFrom open? (above ++ below) = (scanFrom open? above).continueWith below := by
  fun_induction scanFrom open? above with
  | case1 => rfl
  | case2 b => rfl
  | case3 l r line hk ih => simpa [scanFrom, hk, line] using ih
  | case4 l r line hk => simp [scanFrom, hk, line, Scan.continueWith]
  | case5 l r line kind hk b hc ih =>
    simpa [scanFrom, hk, line, hc, b, Scan.continueWith_after] using congrArg (Scan.after · _) ih
  | case6 l r line kind hk b hc ih => simpa [scanFrom, hk, line, hc] using ih
  | case7 b l r line b' hc ih =>
    simpa [scanFrom, hc, line, b', Scan.continueWith_after] using congrArg (Scan.after · _) ih
  | case8 b l r line b' hc ih => simpa [scanFrom, hc, line] using ih

end Header
end PragmaAssist
