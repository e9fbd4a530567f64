import Listfile.Keyed

/-!
The settings with which a file is compiled and its target linked, and when two of them build alike.
-/

namespace Listfile

inductive PchMode where
  | none
  | use
  | create
  deriving DecidableEq, Repr, Inhabited

/-- How a precompiled header is used: the header it is built through, and the file it is kept in. -/
structure Pch where
  mode : PchMode := .none
  header : String := ""
  file : String := ""
  deriving DecidableEq, Repr, Inhabited

namespace Pch

def defaultHeader : String := "stdafx.h"

def defaultFile : String := "$(IntDir)$(TargetName).pch"

/-- The compiler flags, without the header and the file where these have their default. -/
def flags (pch : Pch) : String :=
  let operands :=
    (if pch.header ≠ "" ∧ pch.header ≠ defaultHeader then "\"" ++ pch.header ++ "\"" else "") ++
      (if pch.file ≠ "" ∧ pch.file ≠ defaultFile then " /Fp\"" ++ pch.file ++ "\"" else "")
  match pch.mode with
  | .none => ""
  | .use => "/Yu" ++ operands
  | .create => "/Yc" ++ operands

end Pch

structure Settings where
  includeDirectories : List String := []
  definitions : List String := []
  libraryDirectories : List String := []
  linkLibraries : List String := []
  pch : Pch := {}
  /-- Not stated is not the same as off. -/
  sdlCheck : Option Bool := none
  deriving DecidableEq, Repr, Inhabited

/-- The order of preprocessor definitions does not matter, their number does. -/
def definitionsEquivalent (a b : List String) : Bool :=
  a.length == b.length && a.mergeSort (· ≤ ·) == b.mergeSort (· ≤ ·)

def Settings.isEquivalent (a b : Settings) : Bool :=
  a.includeDirectories == b.includeDirectories && definitionsEquivalent a.definitions b.definitions &&
    a.libraryDirectories == b.libraryDirectories && a.linkLibraries == b.linkLibraries &&
    a.pch == b.pch && a.sdlCheck == b.sdlCheck

structure FileSettings where
  file : String
  perConfig : Keyed Settings
  deriving DecidableEq, Repr

def FileSettings.matchesDefaults (file : FileSettings) (defaults : Keyed Settings) : Bool :=
  defaults.all fun entry =>
    match Keyed.get? file.perConfig entry.1 with
    | some settings => settings.isEquivalent entry.2
    | none => false

end Listfile
