import PragmaAssist.Text.Basic

/-! The warnings and the other command line options of GHC 9.4 that are worth completing. -/
namespace PragmaAssist.Builtin

def warnings : List Text :=
  ["all-missed-specialisations", "ambiguous-fields", "auto-orphans",
   "compat-unqualified-imports", "cpp-undef", "deferred-out-of-scope-variables",
   "deferred-type-errors", "deprecated-flags", "deprecations", "deriving-defaults",
   "deriving-typeable", "dodgy-exports", "dodgy-foreign-imports", "dodgy-imports",
   "duplicate-constraints", "duplicate-exports", "empty-enumerations", "forall-identifier",
   "gadt-mono-local-binds", "identities", "implicit-kind-vars", "implicit-lift",
   "implicit-prelude", "inaccessible-code", "incomplete-patterns", "incomplete-record-updates",
   "incomplete-uni-patterns", "inline-rule-shadowing", "invalid-haddock",
   "missed-extra-shared-lib", "missed-specialisations", "missing-deriving-strategies",
   "missing-export-lists", "missing-exported-signatures", "missing-fields",
   "missing-home-modules", "missing-import-lists", "missing-kind-signatures",
   "missing-local-signatures", "missing-methods", "missing-monadfail-instances",
   "missing-pattern-synonym-signatures", "missing-safe-haskell-mode", "missing-signatures",
   "monomorphism-restriction", "name-shadowing", "noncanonical-monad-instances",
   "noncanonical-monoid-instances", "operator-whitespace", "operator-whitespace-ext-conflict",
   "orphans", "overflowed-literals", "overlapping-patterns", "partial-fields",
   "partial-type-signatures", "prepositive-qualified-module", "redundant-bang-patterns",
   "redundant-constraints", "redundant-record-wildcards", "redundant-strictness-flags", "safe",
   "semigroup", "simplifiable-class-constraints", "star-binder", "star-is-type", "tabs",
   "trustworthy-safe", "type-defaults", "type-equality-out-of-scope",
   "type-equality-requires-operators", "typed-holes", "unbanged-strict-patterns",
   "unicode-bidirectional-format-characters", "unrecognised-pragmas",
   "unrecognised-warning-flags", "unsafe", "unsupported-calling-conventions",
   "unsupported-llvm-version", "unticked-promoted-constructors", "unused-binds",
   "unused-do-bind", "unused-foralls", "unused-imports", "unused-local-binds", "unused-matches",
   "unused-packages", "unused-pattern-binds", "unused-record-wildcards", "unused-top-binds",
   "unused-type-patterns", "warnings-deprecations", "wrong-do-bind"].map String.toList

def options : List Text :=
  ["-Wall", "-Wcompat", "-Wdefault", "-Werror", "-Weverything", "-Wextra", "-fdefer-type-errors",
   "-fdefer-typed-holes", "-fexpose-all-unfoldings", "-fforce-recomp", "-fno-code",
   "-fno-warn-orphans", "-fplugin", "-fprint-explicit-foralls", "-fprint-explicit-kinds",
   "-fprint-potential-instances", "-fspecialise-aggressively", "-fwarn-incomplete-patterns",
   "-O0", "-O1", "-O2", "-Werror=incomplete-patterns", "-haddock", "-threaded"].map String.toList

def flags : List Text :=
  let switches := warnings.flatMap fun w => ["-W".toList ++ w, "-Wno-".toList ++ w]
  switches ++ options.filter (· ∉ switches)

end PragmaAssist.Builtin
