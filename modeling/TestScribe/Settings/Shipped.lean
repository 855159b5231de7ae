import TestScribe.Settings.Store

/-!
# The settings that the program ships with

A fresh installation has these settings in its settings file. The directories are left
open, so that the defaults of the installation hold.
-/

namespace TestScribe.Settings

/-- The settings about the log. -/
def shippedLog : Json := .record [("level".toList, .str "INFO".toList)]

/-- The settings about runs. -/
def shippedRun : Json :=
  .record
    [("input_dir".toList, .null), ("output_dir".toList, .null),
     ("input_extension".toList, .str "html".toList), ("class_suffix".toList, .str "Cest".toList),
     ("fail_fast".toList, .bool false), ("show_progress".toList, .bool true)]

/-- The settings about tables. -/
def shippedTable : Json :=
  .record [("skip_empty_rows".toList, .bool true), ("use_header".toList, .bool true)]

/-- All settings of a fresh installation. -/
def shipped : Store :=
  .record [("debug".toList, shippedLog), ("generator".toList, shippedRun),
    ("csv".toList, shippedTable)]

end TestScribe.Settings
