import LoadOrder.Plugin.Merge

/-!
# Assembling records

The record of a scanned plugin combines what the metadata lists say with what the scan found. The
scan is applied last, so that no list can take away scanned masters or content. Records for plugins
that were not scanned do not count, nor do records whose name is a pattern.
-/

namespace LoadOrder

/-- The scan of a named plugin. -/
structure Scanned where
  name : String
  scan : ContentScan
deriving BEq, Repr

namespace Scanned

/-- What tells the plugin apart. -/
def key (scanned : Scanned) : String := Name.key scanned.name

/-- The first scan of each plugin; `seen` lists the keys of the plugins met before. -/
def firstOfEach (seen : List String) : List Scanned → List Scanned
  | [] => []
  | scanned :: rest =>
    if seen.contains scanned.key then firstOfEach seen rest
    else scanned :: firstOfEach (scanned.key :: seen) rest

end Scanned

namespace Assembly

/-- The merged records of the lists that are about one plugin each. -/
def listed (lists : List (List Plugin)) : List Plugin :=
  (Plugin.mergeSources lists).filter fun record => !record.hasPatternName

def assembleOne (listed : List Plugin) (scanned : Scanned) : Plugin :=
  let unscanned : Plugin :=
    match listed.find? (·.key == scanned.key) with
    | some record => Plugin.merge { name := scanned.name } record
    | none => { name := scanned.name }
  unscanned.withScan scanned.scan

/-- One record for each scanned plugin, in the order of their first scans. -/
def assemble (scans : List Scanned) (lists : List (List Plugin)) : List Plugin :=
  (Scanned.firstOfEach [] scans).map (assembleOne (listed lists))

/-- What passing over repeated scans reports. -/
def repeatedLog (seen : List String) : List Scanned → List Log.Record
  | [] => []
  | scanned :: rest =>
    if seen.contains scanned.key then
      .warn s!"Plugin '{scanned.name}' was scanned more than once; using the first scan" ::
        repeatedLog seen rest
    else repeatedLog (scanned.key :: seen) rest

def assembleLog (scans : List Scanned) (lists : List (List Plugin)) : List Log.Record :=
  let patterns := (Plugin.mergeSources lists).filter Plugin.hasPatternName
  let unmatched := (listed lists).filter fun record =>
    !scans.any fun scanned => scanned.key == record.key
  Plugin.mergeSourcesLog lists ++
    patterns.map (fun record =>
      .debug s!"Ignoring pattern-named metadata record '{record.name}'") ++
    repeatedLog [] scans ++
    unmatched.map (fun record =>
      .debug s!"No installed plugin matches metadata record '{record.name}'")

end Assembly

end LoadOrder
