import Phrasebook.FileTree
import Phrasebook.Script

/-!
# Script files

A script file is read, with newlines as line ends, and then analysed.
-/

namespace Phrasebook

/-- Why a script file has no report. -/
inductive ScriptFault where
  | file (fault : FileFault) (path : Text)
  | setup (error : SetupError)
  deriving DecidableEq

namespace ScriptFault

def message : ScriptFault → Text
  | .file fault path => fault.message path
  | .setup error => error.message

end ScriptFault

namespace FileTree

def source (tree : FileTree) (path : Text) : Except ScriptFault SourceFile :=
  match tree.read (FilePath.normalized path) with
  | .ok content => .ok ⟨content⟩
  | .error fault => .error (.file fault (FilePath.normalized path))

end FileTree

namespace Parser

/-- Parses every trigger and statement of a script file. -/
def analyzeFile (parser : Parser) (tree : FileTree) (path : Text) :
    Except ScriptFault ScriptReport := do
  let source ← tree.source path
  (parser.analyzeScript source.content (FilePath.normalized path)).mapError .setup

end Parser

end Phrasebook
