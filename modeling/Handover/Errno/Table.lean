/-! # The table of error numbers

Each number has a symbol and two descriptions: the terse one that goes with the symbol and the one the C library prints.
Numbers 41 and 58 are unassigned.
-/
namespace Handover

structure ErrnoEntry where
  code : Nat
  symbol : String
  terse : String
  description : String

namespace ErrnoEntry

/-- An entry whose two descriptions agree. -/
def same (code : Nat) (symbol text : String) : ErrnoEntry := ⟨code, symbol, text, text⟩

def table : List ErrnoEntry := [
  .same 1 "EPERM" "Operation not permitted",
  .same 2 "ENOENT" "No such file or directory",
  .same 3 "ESRCH" "No such process",
  .same 4 "EINTR" "Interrupted system call",
  ⟨5, "EIO", "I/O error", "Input/output error"⟩,
  .same 6 "ENXIO" "No such device or address",
  .same 7 "E2BIG" "Argument list too long",
  .same 8 "ENOEXEC" "Exec format error",
  ⟨9, "EBADF", "Bad file number", "Bad file descriptor"⟩,
  .same 10 "ECHILD" "No child processes",
  ⟨11, "EAGAIN", "Try again", "Resource temporarily unavailable"⟩,
  ⟨12, "ENOMEM", "Out of memory", "Cannot allocate memory"⟩,
  .same 13 "EACCES" "Permission denied",
  .same 14 "EFAULT" "Bad address",
  .same 15 "ENOTBLK" "Block device required",
  .same 16 "EBUSY" "Device or resource busy",
  .same 17 "EEXIST" "File exists",
  ⟨18, "EXDEV", "Cross-device link", "Invalid cross-device link"⟩,
  .same 19 "ENODEV" "No such device",
  .same 20 "ENOTDIR" "Not a directory",
  .same 21 "EISDIR" "Is a directory",
  .same 22 "EINVAL" "Invalid argument",
  ⟨23, "ENFILE", "File table overflow", "Too many open files in system"⟩,
  .same 24 "EMFILE" "Too many open files",
  ⟨25, "ENOTTY", "Not a typewriter", "Inappropriate ioctl for device"⟩,
  .same 26 "ETXTBSY" "Text file busy",
  .same 27 "EFBIG" "File too large",
  .same 28 "ENOSPC" "No space left on device",
  .same 29 "ESPIPE" "Illegal seek",
  .same 30 "EROFS" "Read-only file system",
  .same 31 "EMLINK" "Too many links",
  .same 32 "EPIPE" "Broken pipe",
  ⟨33, "EDOM", "Math argument out of domain of func", "Numerical argument out of domain"⟩,
  ⟨34, "ERANGE", "Math result not representable", "Numerical result out of range"⟩,
  ⟨35, "EDEADLK", "Resource deadlock would occur", "Resource deadlock avoided"⟩,
  .same 36 "ENAMETOOLONG" "File name too long",
  ⟨37, "ENOLCK", "No record locks available", "No locks available"⟩,
  .same 38 "ENOSYS" "Function not implemented",
  .same 39 "ENOTEMPTY" "Directory not empty",
  ⟨40, "ELOOP", "Too many symbolic links encountered", "Too many levels of symbolic links"⟩,
  .same 42 "ENOMSG" "No message of desired type",
  .same 43 "EIDRM" "Identifier removed",
  .same 44 "ECHRNG" "Channel number out of range",
  .same 45 "EL2NSYNC" "Level 2 not synchronized",
  .same 46 "EL3HLT" "Level 3 halted",
  .same 47 "EL3RST" "Level 3 reset",
  .same 48 "ELNRNG" "Link number out of range",
  .same 49 "EUNATCH" "Protocol driver not attached",
  .same 50 "ENOCSI" "No CSI structure available",
  .same 51 "EL2HLT" "Level 2 halted",
  .same 52 "EBADE" "Invalid exchange",
  .same 53 "EBADR" "Invalid request descriptor",
  .same 54 "EXFULL" "Exchange full",
  .same 55 "ENOANO" "No anode",
  .same 56 "EBADRQC" "Invalid request code",
  .same 57 "EBADSLT" "Invalid slot",
  .same 59 "EBFONT" "Bad font file format",
  .same 60 "ENOSTR" "Device not a stream",
  .same 61 "ENODATA" "No data available",
  .same 62 "ETIME" "Timer expired",
  .same 63 "ENOSR" "Out of streams resources",
  .same 64 "ENONET" "Machine is not on the network",
  .same 65 "ENOPKG" "Package not installed",
  .same 66 "EREMOTE" "Object is remote",
  .same 67 "ENOLINK" "Link has been severed",
  .same 68 "EADV" "Advertise error",
  .same 69 "ESRMNT" "Srmount error",
  .same 70 "ECOMM" "Communication error on send",
  .same 71 "EPROTO" "Protocol error",
  .same 72 "EMULTIHOP" "Multihop attempted",
  .same 73 "EDOTDOT" "RFS specific error",
  ⟨74, "EBADMSG", "Not a data message", "Bad message"⟩,
  .same 75 "EOVERFLOW" "Value too large for defined data type",
  .same 76 "ENOTUNIQ" "Name not unique on network",
  .same 77 "EBADFD" "File descriptor in bad state",
  .same 78 "EREMCHG" "Remote address changed",
  .same 79 "ELIBACC" "Can not access a needed shared library",
  .same 80 "ELIBBAD" "Accessing a corrupted shared library",
  .same 81 "ELIBSCN" ".lib section in a.out corrupted",
  .same 82 "ELIBMAX" "Attempting to link in too many shared libraries",
  .same 83 "ELIBEXEC" "Cannot exec a shared library directly",
  ⟨84, "EILSEQ", "Illegal byte sequence", "Invalid or incomplete multibyte or wide character"⟩,
  .same 85 "ERESTART" "Interrupted system call should be restarted",
  .same 86 "ESTRPIPE" "Streams pipe error",
  .same 87 "EUSERS" "Too many users",
  .same 88 "ENOTSOCK" "Socket operation on non-socket",
  .same 89 "EDESTADDRREQ" "Destination address required",
  .same 90 "EMSGSIZE" "Message too long",
  .same 91 "EPROTOTYPE" "Protocol wrong type for socket",
  .same 92 "ENOPROTOOPT" "Protocol not available",
  .same 93 "EPROTONOSUPPORT" "Protocol not supported",
  .same 94 "ESOCKTNOSUPPORT" "Socket type not supported",
  ⟨95, "EOPNOTSUPP", "Operation not supported on transport endpoint", "Operation not supported"⟩,
  .same 96 "EPFNOSUPPORT" "Protocol family not supported",
  .same 97 "EAFNOSUPPORT" "Address family not supported by protocol",
  .same 98 "EADDRINUSE" "Address already in use",
  .same 99 "EADDRNOTAVAIL" "Cannot assign requested address",
  .same 100 "ENETDOWN" "Network is down",
  .same 101 "ENETUNREACH" "Network is unreachable",
  ⟨102, "ENETRESET", "Network dropped connection because of reset", "Network dropped connection on reset"⟩,
  .same 103 "ECONNABORTED" "Software caused connection abort",
  .same 104 "ECONNRESET" "Connection reset by peer",
  .same 105 "ENOBUFS" "No buffer space available",
  .same 106 "EISCONN" "Transport endpoint is already connected",
  .same 107 "ENOTCONN" "Transport endpoint is not connected",
  .same 108 "ESHUTDOWN" "Cannot send after transport endpoint shutdown",
  .same 109 "ETOOMANYREFS" "Too many references: cannot splice",
  .same 110 "ETIMEDOUT" "Connection timed out",
  .same 111 "ECONNREFUSED" "Connection refused",
  .same 112 "EHOSTDOWN" "Host is down",
  .same 113 "EHOSTUNREACH" "No route to host",
  .same 114 "EALREADY" "Operation already in progress",
  .same 115 "EINPROGRESS" "Operation now in progress",
  .same 116 "ESTALE" "Stale file handle",
  .same 117 "EUCLEAN" "Structure needs cleaning",
  .same 118 "ENOTNAM" "Not a XENIX named type file",
  .same 119 "ENAVAIL" "No XENIX semaphores available",
  .same 120 "EISNAM" "Is a named type file",
  .same 121 "EREMOTEIO" "Remote I/O error",
  ⟨122, "EDQUOT", "Quota exceeded", "Disk quota exceeded"⟩,
  .same 123 "ENOMEDIUM" "No medium found",
  .same 124 "EMEDIUMTYPE" "Wrong medium type",
  .same 125 "ECANCELED" "Operation canceled",
  .same 126 "ENOKEY" "Required key not available",
  .same 127 "EKEYEXPIRED" "Key has expired",
  .same 128 "EKEYREVOKED" "Key has been revoked",
  .same 129 "EKEYREJECTED" "Key was rejected by service",
  .same 130 "EOWNERDEAD" "Owner died",
  .same 131 "ENOTRECOVERABLE" "State not recoverable",
  .same 132 "ERFKILL" "Operation not possible due to RF-kill",
  .same 133 "EHWPOISON" "Memory page has hardware error"]

def find? (code : Int) : Option ErrnoEntry := table.find? fun entry => decide ((entry.code : Int) = code)

end ErrnoEntry

end Handover
