import CallerClosure.Machine
import CallerClosure.Proofs.Files.Lookup
import CallerClosure.Proofs.Session.Deeds

/-!
# Unchanging surroundings

* `Disk` is what is on a disk. `Disk.Canonical` and `Disk.Orderly` say what can be expected of
  its paths, and `FileTree.disk_canonical` and `FileTree.disk_orderly` that a tree of files is as
  expected;
* `Environment.HasDisk` says that a set of worlds has a disk which nothing can change from within
  these worlds. `Machine.hasDisk` says so of a machine, whatever its server does;
* `Replies` is what a server answers, and `Environment.HasReplies` says that in a set of worlds
  it always does;
* `Environment.fixed` has nothing but a disk and replies. `start_of_silent` and `start_fixed` say
  when a session starts.
-/

namespace CallerClosure

open Relation (ReflTransGen)

variable {ω : Type}

/-- The files of a disk. -/
structure Disk where
  /-- The path of a file without links and dots, if the file exists. -/
  canonical : Path → Except FileError Path
  /-- The text of a file. -/
  text : Path → Except FileError Text
  /-- What comes of looking for a file whose name is no text. -/
  seek : Path → Except FileError Unit

/-- The absolute form of a path on a disk, read from the root of a workspace. -/
def Disk.absolute (disk : Disk) (root p : Path) : Path :=
  let joined := if p.isAbsolute then p else root.join p
  match disk.canonical joined with
  | .ok canonical => canonical
  | .error _ => joined

/-- A path without links and dots that is looked up again stays as it is. -/
def Disk.Canonical (disk : Disk) : Prop :=
  ∀ p c, disk.canonical p = .ok c → disk.canonical c = .ok c

/-- An absolute form of a path that starts at the root is its own absolute form. -/
theorem Disk.Canonical.absolute_absolute {disk : Disk} (h : disk.Canonical) {root p q : Path}
    (hp : p = disk.absolute root q) (habsolute : p.isAbsolute = true) :
    disk.absolute root p = p := by
  rw [absolute] at hp
  rw [absolute, if_pos habsolute]
  split at hp
  · rename_i c hc
    rw [hp, h _ c hc]
  · rename_i e he
    rw [hp, he]

/-- What can be expected of the files of a disk. -/
structure Disk.Orderly (disk : Disk) : Prop where
  /-- The path of a file that can be read can be freed of links and dots. -/
  readable : ∀ {p text}, disk.text p = .ok text → ∃ c, disk.canonical p = .ok c
  /-- Without links and dots it is spelled in one way. -/
  unique : ∀ {p q c d}, disk.canonical p = .ok c → disk.canonical q = .ok d → c.Same d → c = d
  /-- A file that can be read in one spelling is not missing in another one. -/
  present : ∀ {p q text}, p.Same q → disk.text p = .ok text → disk.text q ≠ .error .notFound

namespace FileTree

variable {t : FileTree} {directory : List String}

/-- The disk that holds a tree of files. Paths that do not start at the root are read from a
directory. -/
def disk (t : FileTree) (directory : List String) : Disk where
  canonical := t.canonicalize directory
  text := t.readText directory
  seek p := (t.readText directory p).map fun _ => ()

theorem disk_canonical (hclean : t.LinksClean) (hdirectory : t.Stands directory) :
    (t.disk directory).Canonical :=
  fun _ _ => canonicalize_canonicalize hclean hdirectory

theorem disk_orderly (hclean : t.LinksClean) (hdirectory : t.Stands directory) :
    (t.disk directory).Orderly where
  readable h := by
    obtain ⟨n, content, hresolve, -⟩ := exists_of_readText h
    exact exists_of_resolve hresolve
  unique := eq_of_canonicalize hclean hdirectory
  present := readText_ne_notFound

end FileTree

/-- What a server answers, whenever it is asked. -/
structure Replies where
  reply : ServerRequest → Except ServerError Json
  receipt : ServerNotice → Except ServerError Unit

namespace Environment

/-- In a set of worlds the files are those of a disk, and nothing leads out of the set. -/
structure HasDisk (env : Environment ω) (disk : Disk) (worlds : Set ω) : Prop where
  canonicalize : ∀ w ∈ worlds, ∀ p, env.canonicalize p w = disk.canonical p
  readText : ∀ w ∈ worlds, ∀ p, (env.readText p w).1 = disk.text p
  seek : ∀ w ∈ worlds, ∀ p, (env.seek p w).1 = disk.seek p
  keeps : ∀ w ∈ worlds, ∀ deed, env.perform deed w ∈ worlds

/-- In a set of worlds a message is answered by a fixed reply. -/
structure HasReplies (env : Environment ω) (replies : Replies) (worlds : Set ω) : Prop where
  request : ∀ w ∈ worlds, ∀ message, (env.request message w).1 = replies.reply message
  notify : ∀ w ∈ worlds, ∀ message, (env.notify message w).1 = replies.receipt message

theorem HasDisk.absolute_eq {env : Environment ω} {disk : Disk} {worlds : Set ω}
    (h : env.HasDisk disk worlds) {w : ω} (hw : w ∈ worlds) (root p : Path) :
    env.absolute root p w = disk.absolute root p := by
  rw [absolute, Session.absolute]
  dsimp only
  rw [h.canonicalize w hw]
  rfl

theorem HasDisk.mem_of_does {env : Environment ω} {disk : Disk} {worlds : Set ω}
    (h : env.HasDisk disk worlds) {permits : ω → Deed → Prop} {w v : ω} (hw : w ∈ worlds)
    (hdoes : ReflTransGen (env.Does permits) w v) : v ∈ worlds := by
  induction hdoes with
  | refl => exact hw
  | tail _ hstep ih =>
    obtain ⟨deed, -, rfl⟩ := hstep
    exact h.keeps _ ih deed

/-- Surroundings that hold a disk and a server and do not change at all. -/
def fixed (disk : Disk) (replies : Replies) : Environment Unit where
  canonicalize p _ := disk.canonical p
  readText p w := (disk.text p, w)
  seek p w := (disk.seek p, w)
  launch _ w := (.ok (), w)
  request message w := (replies.reply message, w)
  notify message w := (replies.receipt message, w)
  remark _ w := w

theorem fixed_hasDisk (disk : Disk) (replies : Replies) :
    (fixed disk replies).HasDisk disk Set.univ where
  canonicalize _ _ _ := rfl
  readText _ _ _ := rfl
  seek _ _ _ := rfl
  keeps _ _ _ := trivial

theorem fixed_readable {disk : Disk} (h : disk.Orderly) (replies : Replies) :
    (fixed disk replies).Readable :=
  fun _ _ _ => h.readable

theorem fixed_hasReplies (disk : Disk) (replies : Replies) :
    (fixed disk replies).HasReplies replies Set.univ where
  request _ _ _ := rfl
  notify _ _ _ := rfl

end Environment

namespace Machine

/-- Writing to the log changes neither files nor the working directory. -/
theorem log_files (threshold : LogLevel) (line : LogLine) (m : Machine) :
    (m.log threshold line).files = m.files ∧
      (m.log threshold line).workingDirectory = m.workingDirectory := by
  unfold log
  split <;> exact ⟨rfl, rfl⟩

theorem logHeard_files (threshold : LogLevel) (m : Machine) :
    (m.logHeard threshold).files = m.files ∧
      (m.logHeard threshold).workingDirectory = m.workingDirectory := by
  have hfold : ∀ (heard : List Heard) (m' : Machine),
      (heard.foldl (fun m heard => m.log threshold ⟨none, heard.entry⟩) m').files = m'.files ∧
        (heard.foldl (fun m heard => m.log threshold ⟨none, heard.entry⟩) m').workingDirectory =
          m'.workingDirectory := by
    intro heard
    induction heard with
    | nil => exact fun m' => ⟨rfl, rfl⟩
    | cons h rest ih =>
      intro m'
      obtain ⟨hfiles, hdirectory⟩ := ih (m'.log threshold ⟨none, h.entry⟩)
      obtain ⟨hfiles', hdirectory'⟩ := m'.log_files threshold ⟨none, h.entry⟩
      exact ⟨hfiles.trans hfiles', hdirectory.trans hdirectory'⟩
  exact hfold m.server.heard _

/-- **The files of a machine do not change while a session goes on**, whatever its server
does. -/
theorem hasDisk (m : Machine) (workingDirectory : Path) (threshold : LogLevel) :
    (terminal workingDirectory threshold).toEnvironment.HasDisk (m.files.disk m.directory)
      {m' | m'.files = m.files ∧ m'.workingDirectory = m.workingDirectory} := by
  constructor
  case keeps =>
    rintro m' ⟨hfiles, hdirectory⟩ deed
    cases deed with
    | read p => exact ⟨hfiles, hdirectory⟩
    | seek p => exact ⟨hfiles, hdirectory⟩
    | launch config =>
      have hlaunch : ((terminal workingDirectory threshold).launch config m').2 = m' := by
        unfold terminal
        dsimp only
        split <;> rfl
      change ((terminal workingDirectory threshold).launch config m').2 ∈ _
      rw [hlaunch]
      exact ⟨hfiles, hdirectory⟩
    | request message =>
      obtain ⟨hfiles', hdirectory'⟩ := logHeard_files threshold
        { m' with server := (Replay.request message m'.server).2 }
      exact ⟨hfiles'.trans hfiles, hdirectory'.trans hdirectory⟩
    | notify message => exact ⟨hfiles, hdirectory⟩
    | remark r =>
      obtain ⟨hfiles', hdirectory'⟩ := m'.log_files threshold ⟨none, r.entry⟩
      exact ⟨hfiles'.trans hfiles, hdirectory'.trans hdirectory⟩
  all_goals
    rintro m' ⟨hfiles, hdirectory⟩ p
    simp only [terminal, FileTree.disk, directory, hfiles, hdirectory]

/-- On a machine a file that can be read has a path without links and dots. -/
theorem readable (workingDirectory : Path) (threshold : LogLevel) :
    (terminal workingDirectory threshold).toEnvironment.Readable := by
  intro p m text hread
  obtain ⟨n, content, hresolve, -⟩ := FileTree.exists_of_readText hread
  exact FileTree.exists_of_resolve hresolve

end Machine

/-! ### Starting -/

/-- A server that says nothing about itself is described well. -/
theorem ServerDescription.check_silent :
    ServerDescription.check (.obj [("capabilities", .obj [])]) = .ok () := by
  have hfits : ∀ fields, ServerDescription.fits fields (fun _ => none) = .ok () := by
    intro fields
    induction fields with
    | nil => rfl
    | cons field rest ih => exact ih
  have hrecord : ServerDescription.record "ServerCapabilities" ServerDescription.capabilities
      (.obj []) = .ok () := hfits _
  have hpresent : ServerDescription.present "capabilities"
      (ServerDescription.record "ServerCapabilities" ServerDescription.capabilities)
      (fun name => Json.lastField? name [("capabilities", .obj [])]) = .ok () := hrecord
  unfold ServerDescription.check
  simp only [Json.Decoder.fields, bind, Except.bind]
  rw [hpresent]
  rfl

/-- A session starts where the root is a directory with a URI, and the server runs and says nothing
about itself. -/
theorem start_of_silent {env : Environment ω} {config : ServerConfig} {root : Path}
    {written : String} {parsed : Uri} {w x y z : ω}
    (hroot : env.canonicalize config.root w = .ok root)
    (hwritten : Uri.ofDirectory? root = some written) (hparsed : Uri.parse written = .ok parsed)
    (hlaunch : env.launch { config with root } w = (.ok (), x))
    (hrequest : env.request (.start parsed.text config.options) x =
      (.ok (.obj [("capabilities", .obj [])]), y))
    (hnotify : env.notify .started y = (.ok (), z)) :
    Session.start env config w = (.ok ⟨root, [], z⟩, z) := by
  refine Session.start_eq_ok_iff.2 ⟨root, written, x, hroot, hwritten, hlaunch, ?_, rfl⟩
  have hask : (env.ask (.start parsed.text config.options) ServerDescription.check).hold x =
      (.ok (), y) := by
    rw [Environment.hold_ask, hrequest]
    dsimp only [Except.bind]
    rw [ServerDescription.check_silent]
    rfl
  rw [Environment.greet, Conversation.hold_bind_of_ok (Environment.hold_normalUri hparsed x),
    Conversation.hold_bind_of_ok hask]
  exact hnotify

/-- A server that says nothing about itself and always the same about documents. -/
def Replies.constant (outline definition references : Json) : Replies where
  reply
    | .start .. => .ok (.obj [("capabilities", .obj [])])
    | .outline .. => .ok outline
    | .definition .. => .ok definition
    | .references .. => .ok references
    | .shutdown => .ok .null
  receipt _ := .ok ()

/-- A session with such a server starts where the root is a directory with a URI. -/
theorem start_fixed {disk : Disk} {outline definition references : Json} {config : ServerConfig}
    {root : Path} {written : String} {parsed : Uri} (hroot : disk.canonical config.root = .ok root)
    (hwritten : Uri.ofDirectory? root = some written) (hparsed : Uri.parse written = .ok parsed) :
    Session.start (.fixed disk (.constant outline definition references)) config () =
      (.ok ⟨root, [], ()⟩, ()) :=
  start_of_silent hroot hwritten hparsed rfl rfl rfl

/-! ### A function that calls itself -/

/-- A workspace with a function that calls itself, and a file outside that calls it too. -/
def FileTree.selfCall : FileTree :=
  ⟨[(["ws"], .directory),
    (["ws", "m.py"], .file (Utf8.encode "def f():\n  f()\n".toList)),
    (["n.py"], .file (Utf8.encode "f()\n".toList))]⟩

theorem FileTree.linksClean_selfCall : selfCall.LinksClean :=
  linksClean_of_entries (by simp [selfCall])

/-- A server that knows the function and both calls. -/
def Replies.selfCall : Replies :=
  let place (uri : String) (range : Range) : Json :=
    .obj [("uri", .str uri), ("range", range.toJson)]
  .constant
    (.arr [.obj [("name", .str "f"), ("kind", .nat 12),
      ("range", (⟨⟨0, 0⟩, ⟨1, 5⟩⟩ : Range).toJson),
      ("selectionRange", (⟨⟨0, 4⟩, ⟨0, 5⟩⟩ : Range).toJson)]])
    (place "file:///ws/m.py" ⟨⟨0, 4⟩, ⟨0, 5⟩⟩)
    (.arr [place "file:///n.py" ⟨⟨0, 0⟩, ⟨0, 1⟩⟩, place "file:///ws/m.py" ⟨⟨1, 2⟩, ⟨1, 3⟩⟩])

/-- The surroundings made of both. -/
def Environment.selfCall : Environment Unit :=
  .fixed (FileTree.selfCall.disk []) .selfCall

/-- The function, as a session names it there. -/
def Symbol.selfCall : Symbol :=
  ⟨"/ws/m.py#0:4", "f", .function, [.source ⟨"/ws/m.py"⟩ ⟨0, 14⟩ 4]⟩

/-- The session that has just started there. -/
def Session.selfCall : Session Unit := ⟨⟨"/ws"⟩, [], ()⟩

theorem parse_ws : Uri.parse "file:///ws/" =
    .ok ⟨"file".toList, some [], [], "/ws/".toList, none, none⟩ := rfl

/-- With every server that says nothing about itself the same session starts. -/
theorem start_ws {disk : Disk} (hroot : disk.canonical ⟨"/ws"⟩ = .ok ⟨"/ws"⟩)
    (outline definition references : Json) :
    Session.start (.fixed disk (.constant outline definition references))
      (.standard .python ⟨"/ws"⟩) () = (.ok .selfCall, ()) :=
  start_fixed hroot (by decide) parse_ws

theorem canonical_selfCall : (FileTree.selfCall.disk []).canonical ⟨"/ws"⟩ = .ok ⟨"/ws"⟩ := by
  decide +kernel

theorem start_selfCall :
    Session.start .selfCall (.standard .python ⟨"/ws"⟩) () = (.ok .selfCall, ()) :=
  start_ws canonical_selfCall _ _ _

end CallerClosure
