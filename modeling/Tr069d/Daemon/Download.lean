import Tr069d.Daemon.Loop
import Tr069d.Effects.Calls
import Tr069d.Uci.Adapter

/-!
# Where a download is stored

`DownloadManager.cpp`.  The ACS names the file, or the URL does, and
`safeFileName` keeps the letters, the digits, `.`, `_` and `-` of that name.  What
it keeps may be `.` or `..`, and these are the directory and its parent: the
download stays in its directory exactly for the other names
(`staysInside_execute_iff`).

* `Inside` is meant for the system: one component that is a name, below the directory.
* `calls_execute_iff` reduces the whole run to the one path that is opened.
* `parentName_not_inside` is a request for `..`.
-/

namespace Tr069d

open Effects

/-- What `execute` asks of the system. -/
inductive DownloadCall
  | sleep (seconds : Nat)
  | nowIso
  /-- `mkdir`: whether it succeeded or said `EEXIST` -/
  | mkdir (directory : String)
  /-- `HttpClient::download`, of a client with that configuration -/
  | download (http : HttpConfig) (url username password outputPath : String)
  | log (level : LogLevel) (message : String)

abbrev downloadCalls : Signature where
  Call := DownloadCall
  Answer
    | .sleep _ => Unit
    | .nowIso => String
    | .mkdir _ => Bool
    | .download _ _ _ _ _ => HttpResponse
    | .log _ _ => Unit

abbrev DownloadProg (α : Type) : Type := Prog downloadCalls α

structure DownloadManager where
  directory : String := "/tmp/tr069-downloads"

namespace DownloadManager

/-- The characters that `safeFileName` keeps. -/
def isSafe (c : Char) : Bool :=
  UciAdapter.isAlnum c || c == '.' || c == '_' || c == '-'

def safeFileName (name : String) : String :=
  let result := name.toList.filter isSafe
  if result.isEmpty then "download.bin" else String.ofList result

/-- The name that a request asks for: its own, or the last segment of its URL. -/
def requestedName (request : DownloadRequest) : String :=
  if request.targetFileName ≠ "" then request.targetFileName
  else if '/' ∈ request.url.toList then
    String.ofList (request.url.toList.rtakeWhile (· ≠ '/'))
  else "download.bin"

/-- `sleep_for`, if there is a delay. -/
def delay (seconds : Nat) : DownloadProg Unit :=
  if seconds ≠ 0 then @Prog.ask downloadCalls (.sleep seconds) else return ()

def execute (manager : DownloadManager) (request : DownloadRequest) (http : HttpConfig) :
    DownloadProg TransferResult := do
  delay request.delaySeconds
  let startTime ← @Prog.ask downloadCalls .nowIso
  let result : TransferResult := { commandKey := request.commandKey, startTime }
  if !(← @Prog.ask downloadCalls (.mkdir manager.directory)) then
    let completeTime ← @Prog.ask downloadCalls .nowIso
    return { result with
      faultCode := 9010, faultString := "Cannot create download directory", completeTime }
  else
    let path := manager.directory ++ "/" ++ safeFileName (requestedName request)
    let response ← @Prog.ask downloadCalls
      (.download http request.url request.username request.password path)
    if !response.ok then
      let faultString :=
        if response.error == "" then "HTTP status " ++ toString response.status
        else response.error
      @Prog.ask downloadCalls (.log .error ("Download failed: " ++ faultString))
      let completeTime ← @Prog.ask downloadCalls .nowIso
      return { result with faultCode := 9010, faultString, completeTime }
    else
      @Prog.ask downloadCalls (.log .info ("Download completed: " ++ path))
      let completeTime ← @Prog.ask downloadCalls .nowIso
      return { result with completeTime }

/-! ## Inside the directory -/

/-- One component of a path that is the name of a file. -/
structure IsFileName (component : String) : Prop where
  nonempty : component ≠ ""
  noSlash : '/' ∉ component.toList
  noNul : '\x00' ∉ component.toList
  notDirectory : component ≠ "."
  notParent : component ≠ ".."

/-- The path is a file right inside the directory. -/
def Inside (directory path : String) : Prop :=
  ∃ component, path = directory ++ "/" ++ component ∧ IsFileName component

/-- A download is stored inside the directory. -/
def StaysInside (directory : String) : DownloadCall → Prop
  | .download _ _ _ _ outputPath => Inside directory outputPath
  | _ => True

/-- All that is kept of the name is one dot or two. -/
def OnlyDots (name : String) : Prop :=
  (∀ c ∈ name.toList, isSafe c = true → c = '.') ∧
    (name.toList.count '.' = 1 ∨ name.toList.count '.' = 2)

theorem inside_append_iff {directory component : String} :
    Inside directory (directory ++ "/" ++ component) ↔ IsFileName component := by
  constructor
  · rintro ⟨other, hpath, hother⟩
    have hsame : component = other := by
      rw [← String.toList_inj, String.toList_append, String.toList_append] at hpath
      simpa [← String.toList_inj] using hpath
    exact hsame ▸ hother
  · exact fun hname => ⟨component, rfl, hname⟩

/-- What is kept is one or two dots. -/
theorem filter_eq_dots_iff {name : List Char} {count : Nat} :
    name.filter isSafe = List.replicate count '.' ↔
      (∀ c ∈ name, isSafe c = true → c = '.') ∧ name.count '.' = count := by
  rw [List.eq_replicate_iff, and_comm]
  have hmem : (∀ c ∈ name.filter isSafe, c = '.') ↔ ∀ c ∈ name, isSafe c = true → c = '.' := by
    simp only [List.mem_filter, and_imp]
  rw [hmem]
  refine and_congr_right fun hdots => ?_
  have hfiltered : name.filter isSafe = List.replicate (name.filter isSafe).length '.' :=
    List.eq_replicate_iff.mpr ⟨rfl, hmem.mpr hdots⟩
  have hcount : (name.filter isSafe).count '.' = name.count '.' := List.count_filter (by decide)
  rw [← hcount]
  conv_rhs => rw [hfiltered, List.count_replicate_self]

theorem isFileName_safeFileName_iff (name : String) :
    IsFileName (safeFileName name) ↔ ¬OnlyDots name := by
  have hdots : ∀ count, String.ofList (name.toList.filter isSafe) =
      String.ofList (List.replicate count '.') ↔
        (∀ c ∈ name.toList, isSafe c = true → c = '.') ∧ name.toList.count '.' = count := by
    intro count
    rw [← String.toList_inj, String.toList_ofList, String.toList_ofList, filter_eq_dots_iff]
  have hsafe : ∀ {c}, isSafe c = false →
      c ∉ (String.ofList (name.toList.filter isSafe)).toList := by
    intro c hc hmem
    rw [String.toList_ofList] at hmem
    rw [(List.mem_filter.mp hmem).2] at hc
    cases hc
  by_cases hkept : name.toList.filter isSafe = []
  · have hdefault : safeFileName name = "download.bin" := by rw [safeFileName, hkept]; rfl
    rw [hdefault]
    refine iff_of_true ⟨by decide, by decide, by decide, by decide, by decide⟩ ?_
    -- nothing is kept, so there is no dot in the name
    rintro ⟨hall, hcount | hcount⟩
    · simpa [hkept] using filter_eq_dots_iff.mpr ⟨hall, hcount⟩
    · simpa [hkept] using filter_eq_dots_iff.mpr ⟨hall, hcount⟩
  · have hresult : safeFileName name = String.ofList (name.toList.filter isSafe) :=
      if_neg (by rwa [List.isEmpty_iff])
    rw [hresult]
    constructor
    · rintro hname ⟨hall, hcount | hcount⟩
      · exact hname.notDirectory ((hdots 1).mpr ⟨hall, hcount⟩)
      · exact hname.notParent ((hdots 2).mpr ⟨hall, hcount⟩)
    · intro hother
      refine ⟨?_, hsafe (by decide), hsafe (by decide), fun hone => ?_, fun htwo => ?_⟩
      · rwa [Ne, ← String.toList_inj, String.toList_ofList]
      · exact hother (((hdots 1).mp hone).imp_right Or.inl)
      · exact hother (((hdots 2).mp htwo).imp_right Or.inr)

/-- The one path that a download is stored under decides. -/
theorem calls_execute_iff (manager : DownloadManager) (request : DownloadRequest)
    (http : HttpConfig) :
    (manager.execute request http).Calls (StaysInside manager.directory) ↔
      IsFileName (safeFileName (requestedName request)) := by
  rw [← @inside_append_iff manager.directory]
  have hnow : (@Prog.ask downloadCalls .nowIso).Calls (StaysInside manager.directory) :=
    Prog.calls_ask trivial
  constructor
  -- some run reaches the call of the download, with the path it is stored under
  · intro h
    unfold execute delay at h
    split at h
    · exact ((h.2 ()).2 "" |>.2 true).1
    · exact (h.2 "" |>.2 true).1
  · intro hinside
    have hdelay : (delay request.delaySeconds).Calls (StaysInside manager.directory) := by
      unfold delay
      split
      · exact Prog.calls_ask trivial
      · exact Prog.calls_pure ()
    have hmkdir : (@Prog.ask downloadCalls (.mkdir manager.directory)).Calls
        (StaysInside manager.directory) := Prog.calls_ask trivial
    have hlog : ∀ level message, (@Prog.ask downloadCalls (.log level message)).Calls
        (StaysInside manager.directory) := fun _ _ => Prog.calls_ask trivial
    -- every other call touches the directory itself or no file at all
    refine hdelay.bind fun _ => hnow.bind fun _ => hmkdir.bind fun made => ?_
    split
    · exact hnow.bind fun _ => Prog.calls_pure _
    · refine Prog.Calls.bind (Prog.calls_ask hinside) fun response => ?_
      split
      · exact (hlog _ _).bind fun _ => hnow.bind fun _ => Prog.calls_pure _
      · exact (hlog _ _).bind fun _ => hnow.bind fun _ => Prog.calls_pure _

/-- A download stays inside its directory, whatever the system answers, exactly
if the requested name is kept as something else than one dot or two. -/
theorem staysInside_execute_iff (manager : DownloadManager) (request : DownloadRequest)
    (http : HttpConfig) :
    (manager.execute request http).Calls (StaysInside manager.directory) ↔
      ¬OnlyDots (requestedName request) := by
  rw [calls_execute_iff, isFileName_safeFileName_iff]

/-- A request for the name `..` stores the download where the directory's parent is. -/
theorem parentName_not_inside :
    ¬(execute {} { url := "http://acs/firmware.bin", targetFileName := ".." }
      ⟨"http://acs", "", "", "", false, 30⟩).Calls (StaysInside "/tmp/tr069-downloads") := by
  intro h
  have hname := (calls_execute_iff {} _ _).mp h
  exact hname.notParent (by decide)

end DownloadManager

end Tr069d
