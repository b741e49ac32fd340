import ComponentHost.Wasm.Types

/-! The functions that the host offers to every guest: those of the first preview of the system
interface. All but one give back an error number. -/

namespace ComponentHost.Wasm.SystemInterface

def source : String := "wasi_snapshot_preview1"

/-- The names with what they take: a letter stands for a 32-bit number, a capital for a 64-bit
one. -/
def offered : List (String × String) :=
  [("args_get", "ii"), ("args_sizes_get", "ii"), ("environ_get", "ii"),
    ("environ_sizes_get", "ii"), ("clock_res_get", "ii"), ("clock_time_get", "iIi"),
    ("fd_advise", "iIIi"), ("fd_allocate", "iII"), ("fd_close", "i"), ("fd_datasync", "i"),
    ("fd_fdstat_get", "ii"), ("fd_fdstat_set_flags", "ii"), ("fd_fdstat_set_rights", "iII"),
    ("fd_filestat_get", "ii"), ("fd_filestat_set_size", "iI"),
    ("fd_filestat_set_times", "iIIi"), ("fd_pread", "iiiIi"), ("fd_prestat_get", "ii"),
    ("fd_prestat_dir_name", "iii"), ("fd_pwrite", "iiiIi"), ("fd_read", "iiii"),
    ("fd_readdir", "iiiIi"), ("fd_renumber", "ii"), ("fd_seek", "iIii"), ("fd_sync", "i"),
    ("fd_tell", "ii"), ("fd_write", "iiii"), ("path_create_directory", "iii"),
    ("path_filestat_get", "iiiii"), ("path_filestat_set_times", "iiiiIIi"),
    ("path_link", "iiiiiii"), ("path_open", "iiiiiIIii"), ("path_readlink", "iiiiii"),
    ("path_remove_directory", "iii"), ("path_rename", "iiiiii"), ("path_symlink", "iiiii"),
    ("path_unlink_file", "iii"), ("poll_oneoff", "iiii"), ("proc_exit", "i"),
    ("proc_raise", "i"), ("sched_yield", ""), ("random_get", "ii"), ("sock_accept", "iii"),
    ("sock_recv", "iiiiii"), ("sock_send", "iiiii"), ("sock_shutdown", "ii")]

def param (c : Char) : ValueType := if c = 'I' then .i64 else .i32

def type? (origin name : String) : Option FuncType :=
  if origin = source then
    (offered.lookup name).map fun params =>
      ⟨params.toList.map param, if name = "proc_exit" then [] else [.i32]⟩
  else none

end ComponentHost.Wasm.SystemInterface
