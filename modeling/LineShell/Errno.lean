import LineShell.Bytes
/-!
# System error numbers

A failed system call leaves a number. Two wordings for it are in use: the one of the C library,
which stands in the text of an input or output error, and the one of the launcher, which stands in
messages about child processes.
-/

namespace LineShell

/-- The number a failed system call leaves. -/
structure Errno where
  code : Int
  deriving DecidableEq, Repr

namespace Errno

def perm : Errno := ⟨1⟩
def noEntry : Errno := ⟨2⟩
def interrupted : Errno := ⟨4⟩
def tooManyArguments : Errno := ⟨7⟩
def notExecutable : Errno := ⟨8⟩
def badDescriptor : Errno := ⟨9⟩
def noChild : Errno := ⟨10⟩
def access : Errno := ⟨13⟩
def busy : Errno := ⟨16⟩
def fileExists : Errno := ⟨17⟩
def notDirectory : Errno := ⟨20⟩
def isDirectory : Errno := ⟨21⟩
def invalid : Errno := ⟨22⟩
def noSpace : Errno := ⟨28⟩
def nameTooLong : Errno := ⟨36⟩
def notEmpty : Errno := ⟨39⟩
def tooManyLinks : Errno := ⟨40⟩

/-- What is known of one error number: its symbol and its two wordings. -/
structure Wording where
  symbol : String
  launcher : String
  library : String

private def both (symbol text : String) : Wording := ⟨symbol, text, text⟩

def wordings : List (Int × Wording) :=
  [(1, both "EPERM" "Operation not permitted"),
    (2, both "ENOENT" "No such file or directory"),
    (3, both "ESRCH" "No such process"),
    (4, both "EINTR" "Interrupted system call"),
    (5, ⟨"EIO", "I/O error", "Input/output error"⟩),
    (6, both "ENXIO" "No such device or address"),
    (7, both "E2BIG" "Argument list too long"),
    (8, both "ENOEXEC" "Exec format error"),
    (9, ⟨"EBADF", "Bad file number", "Bad file descriptor"⟩),
    (10, both "ECHILD" "No child processes"),
    (11, ⟨"EAGAIN", "Try again", "Resource temporarily unavailable"⟩),
    (12, ⟨"ENOMEM", "Out of memory", "Cannot allocate memory"⟩),
    (13, both "EACCES" "Permission denied"),
    (14, both "EFAULT" "Bad address"),
    (15, both "ENOTBLK" "Block device required"),
    (16, both "EBUSY" "Device or resource busy"),
    (17, both "EEXIST" "File exists"),
    (18, ⟨"EXDEV", "Cross-device link", "Invalid cross-device link"⟩),
    (19, both "ENODEV" "No such device"),
    (20, both "ENOTDIR" "Not a directory"),
    (21, both "EISDIR" "Is a directory"),
    (22, both "EINVAL" "Invalid argument"),
    (23, ⟨"ENFILE", "File table overflow", "Too many open files in system"⟩),
    (24, both "EMFILE" "Too many open files"),
    (25, ⟨"ENOTTY", "Not a typewriter", "Inappropriate ioctl for device"⟩),
    (26, both "ETXTBSY" "Text file busy"),
    (27, both "EFBIG" "File too large"),
    (28, both "ENOSPC" "No space left on device"),
    (29, both "ESPIPE" "Illegal seek"),
    (30, both "EROFS" "Read-only file system"),
    (31, both "EMLINK" "Too many links"),
    (32, both "EPIPE" "Broken pipe"),
    (33, ⟨"EDOM", "Math argument out of domain of func", "Numerical argument out of domain"⟩),
    (34, ⟨"ERANGE", "Math result not representable", "Numerical result out of range"⟩),
    (35, ⟨"EDEADLK", "Resource deadlock would occur", "Resource deadlock avoided"⟩),
    (36, both "ENAMETOOLONG" "File name too long"),
    (37, ⟨"ENOLCK", "No record locks available", "No locks available"⟩),
    (38, both "ENOSYS" "Function not implemented"),
    (39, both "ENOTEMPTY" "Directory not empty"),
    (40, ⟨"ELOOP", "Too many symbolic links encountered", "Too many levels of symbolic links"⟩),
    (42, both "ENOMSG" "No message of desired type"),
    (43, both "EIDRM" "Identifier removed"),
    (44, both "ECHRNG" "Channel number out of range"),
    (45, both "EL2NSYNC" "Level 2 not synchronized"),
    (46, both "EL3HLT" "Level 3 halted"),
    (47, both "EL3RST" "Level 3 reset"),
    (48, both "ELNRNG" "Link number out of range"),
    (49, both "EUNATCH" "Protocol driver not attached"),
    (50, both "ENOCSI" "No CSI structure available"),
    (51, both "EL2HLT" "Level 2 halted"),
    (52, both "EBADE" "Invalid exchange"),
    (53, both "EBADR" "Invalid request descriptor"),
    (54, both "EXFULL" "Exchange full"),
    (55, both "ENOANO" "No anode"),
    (56, both "EBADRQC" "Invalid request code"),
    (57, both "EBADSLT" "Invalid slot"),
    (59, both "EBFONT" "Bad font file format"),
    (60, both "ENOSTR" "Device not a stream"),
    (61, both "ENODATA" "No data available"),
    (62, both "ETIME" "Timer expired"),
    (63, both "ENOSR" "Out of streams resources"),
    (64, both "ENONET" "Machine is not on the network"),
    (65, both "ENOPKG" "Package not installed"),
    (66, both "EREMOTE" "Object is remote"),
    (67, both "ENOLINK" "Link has been severed"),
    (68, both "EADV" "Advertise error"),
    (69, both "ESRMNT" "Srmount error"),
    (70, both "ECOMM" "Communication error on send"),
    (71, both "EPROTO" "Protocol error"),
    (72, both "EMULTIHOP" "Multihop attempted"),
    (73, both "EDOTDOT" "RFS specific error"),
    (74, ⟨"EBADMSG", "Not a data message", "Bad message"⟩),
    (75, both "EOVERFLOW" "Value too large for defined data type"),
    (76, both "ENOTUNIQ" "Name not unique on network"),
    (77, both "EBADFD" "File descriptor in bad state"),
    (78, both "EREMCHG" "Remote address changed"),
    (79, both "ELIBACC" "Can not access a needed shared library"),
    (80, both "ELIBBAD" "Accessing a corrupted shared library"),
    (81, both "ELIBSCN" ".lib section in a.out corrupted"),
    (82, both "ELIBMAX" "Attempting to link in too many shared libraries"),
    (83, both "ELIBEXEC" "Cannot exec a shared library directly"),
    (84, ⟨"EILSEQ", "Illegal byte sequence",
      "Invalid or incomplete multibyte or wide character"⟩),
    (85, both "ERESTART" "Interrupted system call should be restarted"),
    (86, both "ESTRPIPE" "Streams pipe error"),
    (87, both "EUSERS" "Too many users"),
    (88, both "ENOTSOCK" "Socket operation on non-socket"),
    (89, both "EDESTADDRREQ" "Destination address required"),
    (90, both "EMSGSIZE" "Message too long"),
    (91, both "EPROTOTYPE" "Protocol wrong type for socket"),
    (92, both "ENOPROTOOPT" "Protocol not available"),
    (93, both "EPROTONOSUPPORT" "Protocol not supported"),
    (94, both "ESOCKTNOSUPPORT" "Socket type not supported"),
    (95, ⟨"EOPNOTSUPP", "Operation not supported on transport endpoint",
      "Operation not supported"⟩),
    (96, both "EPFNOSUPPORT" "Protocol family not supported"),
    (97, both "EAFNOSUPPORT" "Address family not supported by protocol"),
    (98, both "EADDRINUSE" "Address already in use"),
    (99, both "EADDRNOTAVAIL" "Cannot assign requested address"),
    (100, both "ENETDOWN" "Network is down"),
    (101, both "ENETUNREACH" "Network is unreachable"),
    (102, ⟨"ENETRESET", "Network dropped connection because of reset",
      "Network dropped connection on reset"⟩),
    (103, both "ECONNABORTED" "Software caused connection abort"),
    (104, both "ECONNRESET" "Connection reset by peer"),
    (105, both "ENOBUFS" "No buffer space available"),
    (106, both "EISCONN" "Transport endpoint is already connected"),
    (107, both "ENOTCONN" "Transport endpoint is not connected"),
    (108, both "ESHUTDOWN" "Cannot send after transport endpoint shutdown"),
    (109, both "ETOOMANYREFS" "Too many references: cannot splice"),
    (110, both "ETIMEDOUT" "Connection timed out"),
    (111, both "ECONNREFUSED" "Connection refused"),
    (112, both "EHOSTDOWN" "Host is down"),
    (113, both "EHOSTUNREACH" "No route to host"),
    (114, both "EALREADY" "Operation already in progress"),
    (115, both "EINPROGRESS" "Operation now in progress"),
    (116, both "ESTALE" "Stale file handle"),
    (117, both "EUCLEAN" "Structure needs cleaning"),
    (118, both "ENOTNAM" "Not a XENIX named type file"),
    (119, both "ENAVAIL" "No XENIX semaphores available"),
    (120, both "EISNAM" "Is a named type file"),
    (121, both "EREMOTEIO" "Remote I/O error"),
    (122, ⟨"EDQUOT", "Quota exceeded", "Disk quota exceeded"⟩),
    (123, both "ENOMEDIUM" "No medium found"),
    (124, both "EMEDIUMTYPE" "Wrong medium type"),
    (125, both "ECANCELED" "Operation canceled"),
    (126, both "ENOKEY" "Required key not available"),
    (127, both "EKEYEXPIRED" "Key has expired"),
    (128, both "EKEYREVOKED" "Key has been revoked"),
    (129, both "EKEYREJECTED" "Key was rejected by service"),
    (130, both "EOWNERDEAD" "Owner died"),
    (131, both "ENOTRECOVERABLE" "State not recoverable"),
    (132, both "ERFKILL" "Operation not possible due to RF-kill"),
    (133, both "EHWPOISON" "Memory page has hardware error")]

def wording? (code : Int) : Option Wording :=
  wordings.lookup code

/-- The launcher's wording, without the symbol. -/
def description (errno : Errno) : Bytes :=
  Bytes.ofString (((wording? errno.code).map Wording.launcher).getD "Unknown errno")

def symbol (errno : Errno) : Bytes :=
  Bytes.ofString (((wording? errno.code).map Wording.symbol).getD "UnknownErrno")

/-- Symbol and wording, as messages about child processes show them. -/
def text (errno : Errno) : Bytes :=
  errno.symbol ++ Bytes.ofString ": " ++ errno.description

/-- The C library's wording. -/
def libraryText (errno : Errno) : Bytes :=
  match wording? errno.code with
  | some wording => Bytes.ofString wording.library
  | none =>
    if errno.code = 0 then Bytes.ofString "Success"
    else Bytes.ofString "Unknown error " ++ Bytes.ofInt errno.code

end Errno

end LineShell
