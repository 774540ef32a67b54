import PragmaAssist.Text.Basic

/-! The language extensions of GHC 9.4. -/
namespace PragmaAssist.Builtin

def extensions : List Text :=
  ["AllowAmbiguousTypes", "AlternativeLayoutRule", "AlternativeLayoutRuleTransitional",
   "ApplicativeDo", "Arrows", "AutoDeriveTypeable", "BangPatterns", "BinaryLiterals",
   "BlockArguments", "CApiFFI", "CPP", "CUSKs", "ConstrainedClassMethods", "ConstraintKinds",
   "DataKinds", "DatatypeContexts", "DeepSubsumption", "DefaultSignatures", "DeriveAnyClass",
   "DeriveDataTypeable", "DeriveFoldable", "DeriveFunctor", "DeriveGeneric", "DeriveLift",
   "DeriveTraversable", "DerivingStrategies", "DerivingVia", "DisambiguateRecordFields",
   "DoAndIfThenElse", "DoRec", "DuplicateRecordFields", "EmptyCase", "EmptyDataDecls",
   "EmptyDataDeriving", "ExistentialQuantification", "ExplicitForAll", "ExplicitNamespaces",
   "ExtendedDefaultRules", "FieldSelectors", "FlexibleContexts", "FlexibleInstances",
   "ForeignFunctionInterface", "FunctionalDependencies", "GADTSyntax", "GADTs",
   "GHCForeignImportPrim", "GeneralisedNewtypeDeriving", "GeneralizedNewtypeDeriving",
   "HexFloatLiterals", "ImplicitParams", "ImplicitPrelude", "ImportQualifiedPost",
   "ImpredicativeTypes", "IncoherentInstances", "InstanceSigs", "InterruptibleFFI",
   "KindSignatures", "LambdaCase", "LexicalNegation", "LiberalTypeSynonyms", "LinearTypes",
   "MagicHash", "MonadComprehensions", "MonoLocalBinds", "MonomorphismRestriction",
   "MultiParamTypeClasses", "MultiWayIf", "NPlusKPatterns", "NamedFieldPuns", "NamedWildCards",
   "NegativeLiterals", "NondecreasingIndentation", "NullaryTypeClasses", "NumDecimals",
   "NumericUnderscores", "OverlappingInstances", "OverloadedLabels", "OverloadedLists",
   "OverloadedRecordDot", "OverloadedRecordUpdate", "OverloadedStrings", "PackageImports",
   "ParallelArrays", "ParallelListComp", "PartialTypeSignatures", "PatternGuards",
   "PatternSignatures", "PatternSynonyms", "PolyKinds", "PolymorphicComponents",
   "PostfixOperators", "QualifiedDo", "QuantifiedConstraints", "QuasiQuotes", "Rank2Types",
   "RankNTypes", "RebindableSyntax", "RecordPuns", "RecordWildCards", "RecursiveDo",
   "RelaxedLayout", "RelaxedPolyRec", "RoleAnnotations", "ScopedTypeVariables",
   "StandaloneDeriving", "StandaloneKindSignatures", "StarIsType", "StaticPointers", "Strict",
   "StrictData", "TemplateHaskell", "TemplateHaskellQuotes", "TraditionalRecordSyntax",
   "TransformListComp", "TupleSections", "TypeApplications", "TypeFamilies",
   "TypeFamilyDependencies", "TypeInType", "TypeOperators", "TypeSynonymInstances",
   "UnboxedSums", "UnboxedTuples", "UndecidableInstances", "UndecidableSuperClasses",
   "UnicodeSyntax", "UnliftedDatatypes", "UnliftedFFITypes", "UnliftedNewtypes",
   "ViewPatterns"].map String.toList

/-- Names that cannot be negated: the safety levels and the language editions. -/
def permanent : List Text :=
  ["Unsafe", "Trustworthy", "Safe", "Haskell98", "Haskell2010"].map String.toList

end PragmaAssist.Builtin
