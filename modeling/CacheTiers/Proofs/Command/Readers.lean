import CacheTiers.Command.Basic
import CacheTiers.Proofs.Config.Declared
import CacheTiers.Proofs.Manager.Restart
import CacheTiers.Proofs.Text.Listed

namespace CacheTiers

theorem Manager.init_taken (config : Config) (manager : Manager) :
    (manager.init config).1 = .ok () ↔ config.check = .ok () := by
  rw [init]
  cases config.check <;> simp

theorem Manager.start_taken (content : Except FileFault (List UInt8)) (manager : Manager) :
    (manager.initFromFile content).1 = .ok () ↔ ∃ config, Config.ofFile content = .ok config ∧ config.check = .ok () := by
  rw [initFromFile]
  cases Config.ofFile content with
  | error fault => simp [initRead]
  | ok config =>
      simp only [Except.ok.injEq, exists_eq_left']
      exact init_taken config manager

theorem Config.file_taken (content : Except FileFault (List UInt8)) :
    ¬ FileRefused content ↔ ∃ config, ofFile content = .ok config ∧ config.check = .ok () := by
  rw [← Manager.file_refused content Manager.empty, ← Manager.start_taken content Manager.empty]
  cases (Manager.empty.initFromFile content).1 with
  | error fault => exact ⟨fun fine => absurd ⟨fault, rfl⟩ fine, nofun⟩
  | ok => exact ⟨fun _ => rfl, fun _ => nofun⟩

theorem Config.redeclared_taken {content other : Except FileFault (List UInt8)} (redeclared : RedeclaredFile content other)
    (fine : ¬ FileRefused content) : ¬ FileRefused other := by
  obtain ⟨config, held, sound⟩ := (file_taken content).mp fine
  obtain ⟨again, heldAgain, reordered⟩ := redeclared_file_ok content other config redeclared held
  exact (file_taken other).mpr ⟨again, heldAgain, check_reordered reordered sound⟩

theorem lists_reordered {A : Type} {table other : Table String A} {listed : List (String × A)}
    (perm : table.entries.Perm other.entries) (lists : table.ListedAs listed) : other.ListedAs listed := by
  refine ⟨fun name thing => ?_, lists.ascending⟩
  rw [← find_reordered table other perm]
  exact lists.complete name thing

theorem size_of_listed {A : Type} {table : Table String A} {listed : List (String × A)} (lists : table.ListedAs listed) :
    table.size = listed.length := by
  rw [← sorted_of_listed lists, Config.sorted, List.length_mergeSort, Table.size]

namespace Command

theorem parse_dashed (task : Task) (path : String) (nonempty : path ≠ "") :
    parse [task.text, "--", path] = .ok ⟨task, path⟩ := by
  cases task <;> simp [parse, Task.text, Task.ofText?, readPath, read, pathOf, nonempty, Except.map]

section Printed

variable (path : String) (defaultTtl : Nat) (tiers : List (String × TierSetup)) (operations : List (String × OperationSetup))

def validated : String :=
  "✅ " ++ path ++ " is valid (" ++ toString tiers.length ++ " tiers, " ++ toString operations.length ++ " operations)\n" ++
    String.join (operations.map fun entry => "  " ++ entry.1 ++ "\n")

def tierEntry (entry : String × TierSetup) : String :=
  "  " ++ entry.1 ++ " [" ++ entry.2.kind ++ "] ttl=" ++ toString (entry.2.ttl.getD defaultTtl) ++ "s, " ++
    Config.tierDetail entry.1 entry.2 ++ "\n"

def operationEntry (entry : String × OperationSetup) : String :=
  "  " ++ entry.1 ++ ": " ++ Config.wayText entry.2.tiers ++ " -> origin, key " ++ Config.keyText entry.2.key ++ ", shape " ++
    entry.2.shape.text ++ "\n"

def described : String :=
  "=== Tiers ===\n" ++ String.join (tiers.map (tierEntry defaultTtl)) ++ "\n=== Operations ===\n" ++
    String.join (operations.map operationEntry)

end Printed

theorem operation_line (entry : String × OperationSetup) : Config.operationLine entry ++ "\n" = operationEntry entry := by
  have words : ", " ++ "shape " = ", shape " := by rfl
  rw [Config.operationLine, operationEntry, ← words]
  simp only [String.append_assoc]
  rfl

section Reports

variable {config : Config} {tiers : List (String × TierSetup)} {operations : List (String × OperationSetup)}

theorem report_validated (path : String) (sound : config.check = .ok ()) (tiersListed : config.tiers.ListedAs tiers)
    (operationsListed : config.operations.ListedAs operations) :
    report ⟨.validate, path⟩ config = .printed (validated path tiers operations) := by
  simp only [report, sound]
  rw [validText, size_of_listed tiersListed, size_of_listed operationsListed, sorted_of_listed operationsListed]
  rfl

theorem report_described (path : String) (sound : config.check = .ok ()) (tiersListed : config.tiers.ListedAs tiers)
    (operationsListed : config.operations.ListedAs operations) :
    report ⟨.describe, path⟩ config = .printed (described config.defaultTtl tiers operations) := by
  simp only [report, sound]
  rw [Config.description, Config.descriptionLines, sorted_of_listed tiersListed, sorted_of_listed operationsListed]
  have opening : "=== Tiers ===" ++ "\n" ++ "" = "=== Tiers ===\n" := by rfl
  have between : "" ++ "\n" ++ ("=== Operations ===" ++ "\n" ++ "") = "\n=== Operations ===\n" := by rfl
  have entries : (· ++ "\n") ∘ Config.operationLine = operationEntry := funext operation_line
  simp only [List.map_append, List.map_map, String.join_append, List.map_cons, List.map_nil, String.join_cons, String.join_nil,
    opening, between, entries]
  rfl

theorem report_reordered {other : Config} (request : Request) (sound : config.check = .ok ())
    (reordered : config.Reordered other) : report request other = report request config := by
  have also := Config.check_reordered reordered sound
  have tiersListed := sorted_lists config.tiers
  have operationsListed := sorted_lists config.operations
  have tiersAgain := lists_reordered reordered.tiers tiersListed
  have operationsAgain := lists_reordered reordered.operations operationsListed
  obtain ⟨task, path⟩ := request
  cases task with
  | validate =>
      rw [report_validated path sound tiersListed operationsListed, report_validated path also tiersAgain operationsAgain]
  | describe =>
      rw [report_described path sound tiersListed operationsListed, report_described path also tiersAgain operationsAgain,
        reordered.defaultTtl]

end Reports

theorem run_taken {arguments : List String} {request : Request} {read : String → Except FileFault (List UInt8)}
    {config : Config} (asked : parse arguments = .ok request) (taken : Config.ofFile (read request.path) = .ok config) :
    run arguments read = report request config := by
  simp only [run, asked, carryOut, taken]

theorem report_succeeds (request : Request) (config : Config) :
    (report request config).exitCode = 0 ↔ config.check = .ok () := by
  obtain ⟨task, path⟩ := request
  rw [report]
  cases config.check with
  | error violation => cases task <;> exact ⟨nofun, nofun⟩
  | ok => cases task <;> exact ⟨fun _ => rfl, fun _ => rfl⟩

theorem run_succeeds {arguments : List String} {request : Request} (asked : parse arguments = .ok request)
    (read : String → Except FileFault (List UInt8)) :
    (run arguments read).exitCode = 0 ↔
      ∃ config, Config.ofFile (read request.path) = .ok config ∧ config.check = .ok () := by
  simp only [run, asked, carryOut]
  cases Config.ofFile (read request.path) with
  | error fault => exact ⟨nofun, nofun⟩
  | ok config =>
      simp only [Except.ok.injEq, exists_eq_left']
      exact report_succeeds request config

-- A file is taken by all readers or by none. Of one that is taken, what is printed is told by its listings, whatever the
-- order in which tiers and operations are stored or declared.
theorem readers_agree_in_any_order (manager : Manager) (read : String → Except FileFault (List UInt8)) (path : String)
    (validating describing : List String) (asked : parse validating = .ok ⟨.validate, path⟩)
    (told : parse describing = .ok ⟨.describe, path⟩) :
    let refused := Config.FileRefused (read path)
    ((run validating read).exitCode = 0 ↔ ¬ refused) ∧
      ((run describing read).exitCode = 0 ↔ ¬ refused) ∧
      ((manager.initFromFile (read path)).1 = .ok () ↔ ¬ refused) ∧
      (∀ elsewhere, Config.RedeclaredFile (read path) elsewhere → (Config.FileRefused elsewhere ↔ refused)) ∧
      (¬ refused → ∃ config tiers operations,
        Config.ofFile (read path) = .ok config ∧
        config.tiers.ListedAs tiers ∧ config.operations.ListedAs operations ∧
        run validating read = .printed (validated path tiers operations) ∧
        run describing read = .printed (described config.defaultTtl tiers operations) ∧
        (∀ other, Config.Reordered config other →
          report ⟨.validate, path⟩ other = run validating read ∧ report ⟨.describe, path⟩ other = run describing read) ∧
        ∀ elsewhere, Config.RedeclaredFile (read path) (elsewhere path) →
          run validating elsewhere = run validating read ∧ run describing elsewhere = run describing read) := by
  intro refused
  have taken := Config.file_taken (read path)
  refine ⟨(run_succeeds asked read).trans taken.symm, (run_succeeds told read).trans taken.symm,
    (Manager.start_taken (read path) manager).trans taken.symm, fun elsewhere redeclared => ?_, fun fine => ?_⟩
  · exact not_iff_not.mp
      ⟨Config.redeclared_taken (Config.redeclared_file_symm redeclared), Config.redeclared_taken redeclared⟩
  obtain ⟨config, held, sound⟩ := taken.mp fine
  have tiersListed := sorted_lists config.tiers
  have operationsListed := sorted_lists config.operations
  have validates : run validating read = report ⟨.validate, path⟩ config := run_taken asked held
  have describes : run describing read = report ⟨.describe, path⟩ config := run_taken told held
  refine ⟨config, _, _, held, tiersListed, operationsListed,
    validates.trans (report_validated path sound tiersListed operationsListed),
    describes.trans (report_described path sound tiersListed operationsListed), ?_, ?_⟩
  · intro other reordered
    rw [validates, describes]
    exact ⟨report_reordered _ sound reordered, report_reordered _ sound reordered⟩
  · intro elsewhere redeclared
    obtain ⟨other, again, reordered⟩ := Config.redeclared_file_ok _ _ config redeclared held
    rw [validates, describes, run_taken asked again, run_taken told again]
    exact ⟨report_reordered _ sound reordered, report_reordered _ sound reordered⟩

def nearFirst : String :=
  "[tiers.near]\nkind=\"memory\"\n[tiers.far]\nkind=\"memory\"\nttl=60\n[operations.a]\ntiers=[\"near\"]\nkey=[\"id\"]\n"

def farFirst : String :=
  "[tiers.far]\nkind=\"memory\"\nttl=60\n[tiers.near]\nkind=\"memory\"\n[operations.a]\ntiers=[\"near\"]\nkey=[\"id\"]\n"

def nearTier : String × Toml.Value := ("near", .table .headed [("kind", .str "memory")])

def farTier : String × Toml.Value := ("far", .table .headed [("kind", .str "memory"), ("ttl", .int 60)])

def twoTiers (tiers : Toml.Entries) : Toml.Entries :=
  [("tiers", .table .implied tiers),
    ("operations", .table .implied
      [("a", .table .headed [("tiers", .array false [.str "near"]), ("key", .array false [.str "id"])])])]

theorem tiers_in_either_order :
    let read := fun _ : String => Except.ok (Text.encode nearFirst.toList)
    let elsewhere := fun _ : String => Except.ok (Text.encode farFirst.toList)
    let validating := ["validate", "--", "cache.toml"]
    let describing := ["describe", "--", "cache.toml"]
    parse validating = .ok ⟨.validate, "cache.toml"⟩ ∧ parse describing = .ok ⟨.describe, "cache.toml"⟩ ∧
      Config.RedeclaredFile (read "cache.toml") (elsewhere "cache.toml") ∧
      (Manager.empty.initFromFile (read "cache.toml")).1 = .ok () ∧
      (run validating read).exitCode = 0 ∧ (run describing read).exitCode = 0 ∧
      run validating elsewhere = run validating read ∧ run describing elsewhere = run describing read := by
  intro read elsewhere validating describing
  have asked : parse validating = .ok ⟨.validate, "cache.toml"⟩ := parse_dashed .validate "cache.toml" (by decide)
  have told : parse describing = .ok ⟨.describe, "cache.toml"⟩ := parse_dashed .describe "cache.toml" (by decide)
  have declares : Config.documentOf? (read "cache.toml") = some (twoTiers [nearTier, farTier]) := by
    rw [Config.document_of_text]
    decide +kernel
  have repeats : Config.documentOf? (elsewhere "cache.toml") = some (twoTiers [farTier, nearTier]) := by
    rw [Config.document_of_text]
    decide +kernel
  have redeclared : Config.RedeclaredFile (read "cache.toml") (elsewhere "cache.toml") := by
    refine ⟨_, _, declares, repeats, .ordered .implied .implied (.swap farTier nearTier []), .same _, ?_⟩
    intro name tiers operations
    simp [twoTiers, lookup, tiers, operations]
  have fine : ¬ Config.FileRefused (read "cache.toml") := by
    refine (Config.file_taken _).mpr ⟨_, (Config.of_file_ok _ _).mpr (by rw [declares]; rfl), ?_⟩
    rfl
  obtain ⟨validated, described, started, _, printed⟩ :=
    readers_agree_in_any_order Manager.empty read "cache.toml" validating describing asked told
  obtain ⟨_, _, _, _, _, _, _, _, _, alike⟩ := printed fine
  exact ⟨asked, told, redeclared, started.mpr fine, validated.mpr fine, described.mpr fine, alike elsewhere redeclared⟩

end Command

end CacheTiers
