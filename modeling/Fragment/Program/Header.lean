/-!
The standard headers, and what is defined before any text is read. A header is text like any other;
it declares what the standard library of `Fragment.Program.Library` knows.
-/
namespace Fragment.Program.Header

def basics : String := "#define NULL ((void *)0)
typedef unsigned long size_t;
typedef long ssize_t;
typedef long ptrdiff_t;
typedef int wchar_t;
"

def stddef : String := basics ++ "#define offsetof(type, member) ((size_t)&((type *)0)->member)
"

def stdio : String := basics ++ "#define EOF (-1)
#define BUFSIZ 8192
#define SEEK_SET 0
#define SEEK_CUR 1
#define SEEK_END 2
#define _IOFBF 0
#define _IOLBF 1
#define _IONBF 2
#define stdin stdin
#define stdout stdout
#define stderr stderr
#include <stdarg.h>
typedef struct _IO_FILE FILE;
extern FILE *stdin;
extern FILE *stdout;
extern FILE *stderr;
extern int printf(const char *format, ...);
extern int fprintf(FILE *stream, const char *format, ...);
extern int dprintf(int fd, const char *format, ...);
extern int sprintf(char *s, const char *format, ...);
extern int snprintf(char *s, size_t n, const char *format, ...);
extern int vprintf(const char *format, va_list ap);
extern int vfprintf(FILE *stream, const char *format, va_list ap);
extern int vsprintf(char *s, const char *format, va_list ap);
extern int vsnprintf(char *s, size_t n, const char *format, va_list ap);
extern int sscanf(const char *s, const char *format, ...);
extern int scanf(const char *format, ...);
extern int fscanf(FILE *stream, const char *format, ...);
extern int puts(const char *s);
extern int fputs(const char *s, FILE *stream);
extern int putchar(int c);
extern int putc(int c, FILE *stream);
extern int fputc(int c, FILE *stream);
extern int getchar(void);
extern int getc(FILE *stream);
extern int fgetc(FILE *stream);
extern int ungetc(int c, FILE *stream);
extern char *fgets(char *s, int n, FILE *stream);
extern FILE *fopen(const char *path, const char *mode);
extern FILE *freopen(const char *path, const char *mode, FILE *stream);
extern FILE *tmpfile(void);
extern int fclose(FILE *stream);
extern int fflush(FILE *stream);
extern size_t fread(void *p, size_t size, size_t n, FILE *stream);
extern size_t fwrite(const void *p, size_t size, size_t n, FILE *stream);
extern int fseek(FILE *stream, long offset, int whence);
extern long ftell(FILE *stream);
extern void rewind(FILE *stream);
extern int feof(FILE *stream);
extern int ferror(FILE *stream);
extern void clearerr(FILE *stream);
extern int fileno(FILE *stream);
extern int remove(const char *path);
extern int rename(const char *from, const char *to);
extern void perror(const char *s);
extern int setvbuf(FILE *stream, char *buffer, int mode, size_t size);
extern void setbuf(FILE *stream, char *buffer);
"

def stdlib : String := basics ++ "#define EXIT_SUCCESS 0
#define EXIT_FAILURE 1
#define RAND_MAX 2147483647
typedef struct \x7b int quot; int rem; \x7d div_t;
typedef struct \x7b long quot; long rem; \x7d ldiv_t;
extern void *malloc(size_t size);
extern void *calloc(size_t n, size_t size);
extern void *realloc(void *p, size_t size);
extern void free(void *p);
extern void exit(int status) __attribute__((noreturn));
extern void _Exit(int status) __attribute__((noreturn));
extern void abort(void) __attribute__((noreturn));
extern int atexit(void (*f)(void));
extern char *getenv(const char *name);
extern int setenv(const char *name, const char *value, int replace);
extern int unsetenv(const char *name);
extern int putenv(char *s);
extern int clearenv(void);
extern int atoi(const char *s);
extern long atol(const char *s);
extern long long atoll(const char *s);
extern double atof(const char *s);
extern long strtol(const char *s, char **end, int base);
extern unsigned long strtoul(const char *s, char **end, int base);
extern long long strtoll(const char *s, char **end, int base);
extern unsigned long long strtoull(const char *s, char **end, int base);
extern double strtod(const char *s, char **end);
extern int abs(int n);
extern long labs(long n);
extern long long llabs(long long n);
extern div_t div(int a, int b);
extern ldiv_t ldiv(long a, long b);
extern int rand(void);
extern void srand(unsigned int seed);
extern long random(void);
extern void srandom(unsigned int seed);
extern void qsort(void *base, size_t n, size_t size, int (*compare)(const void *, const void *));
extern void *bsearch(const void *key, const void *base, size_t n, size_t size,
  int (*compare)(const void *, const void *));
extern int system(const char *command);
"

def string : String := basics ++ "extern void *memcpy(void *to, const void *from, size_t n);
extern void *memmove(void *to, const void *from, size_t n);
extern void *memset(void *p, int c, size_t n);
extern int memcmp(const void *a, const void *b, size_t n);
extern void *memchr(const void *p, int c, size_t n);
extern size_t strlen(const char *s);
extern size_t strnlen(const char *s, size_t n);
extern char *strcpy(char *to, const char *from);
extern char *strncpy(char *to, const char *from, size_t n);
extern char *stpcpy(char *to, const char *from);
extern char *strcat(char *to, const char *from);
extern char *strncat(char *to, const char *from, size_t n);
extern int strcmp(const char *a, const char *b);
extern int strncmp(const char *a, const char *b, size_t n);
extern int strcasecmp(const char *a, const char *b);
extern int strncasecmp(const char *a, const char *b, size_t n);
extern int strcoll(const char *a, const char *b);
extern char *strchr(const char *s, int c);
extern char *strrchr(const char *s, int c);
extern char *strstr(const char *s, const char *t);
extern char *strpbrk(const char *s, const char *set);
extern size_t strspn(const char *s, const char *set);
extern size_t strcspn(const char *s, const char *set);
extern char *strtok(char *s, const char *set);
extern char *strdup(const char *s);
extern char *strndup(const char *s, size_t n);
extern char *strerror(int n);
"

def ctype : String := "extern int isalpha(int c);
extern int isdigit(int c);
extern int isalnum(int c);
extern int isxdigit(int c);
extern int isspace(int c);
extern int isblank(int c);
extern int isupper(int c);
extern int islower(int c);
extern int ispunct(int c);
extern int isprint(int c);
extern int isgraph(int c);
extern int iscntrl(int c);
extern int toupper(int c);
extern int tolower(int c);
"

def unistd : String := basics ++ "#define STDIN_FILENO 0
#define STDOUT_FILENO 1
#define STDERR_FILENO 2
#define F_OK 0
#define X_OK 1
#define W_OK 2
#define R_OK 4
extern ssize_t write(int fd, const void *p, size_t n);
extern ssize_t read(int fd, void *p, size_t n);
extern int unlink(const char *path);
extern int access(const char *path, int mode);
extern int isatty(int fd);
extern int getpid(void);
extern unsigned int sleep(unsigned int n);
extern int usleep(unsigned int n);
extern void _exit(int status) __attribute__((noreturn));
"

def math : String := "#define M_PI 3.14159265358979323846
#define M_E 2.7182818284590452354
#define INFINITY (__builtin_inff())
#define NAN (__builtin_nanf(\"\"))
extern double sqrt(double x);
extern double cbrt(double x);
extern double pow(double x, double y);
extern double fmod(double x, double y);
extern double sin(double x);
extern double cos(double x);
extern double tan(double x);
extern double asin(double x);
extern double acos(double x);
extern double atan(double x);
extern double atan2(double x, double y);
extern double exp(double x);
extern double log(double x);
extern double log2(double x);
extern double log10(double x);
extern double floor(double x);
extern double ceil(double x);
extern double round(double x);
extern double trunc(double x);
extern double fabs(double x);
"

def limits : String := "#define CHAR_BIT 8
#define SCHAR_MIN (-128)
#define SCHAR_MAX 127
#define UCHAR_MAX 255
#define CHAR_MIN (-128)
#define CHAR_MAX 127
#define SHRT_MIN (-32768)
#define SHRT_MAX 32767
#define USHRT_MAX 65535
#define INT_MIN (-2147483647 - 1)
#define INT_MAX 2147483647
#define UINT_MAX 4294967295U
#define LONG_MIN (-9223372036854775807L - 1L)
#define LONG_MAX 9223372036854775807L
#define ULONG_MAX 18446744073709551615UL
#define LLONG_MIN (-9223372036854775807LL - 1LL)
#define LLONG_MAX 9223372036854775807LL
#define ULLONG_MAX 18446744073709551615ULL
#define PATH_MAX 4096
"

def stdint : String := "typedef signed char int8_t;
typedef unsigned char uint8_t;
typedef short int16_t;
typedef unsigned short uint16_t;
typedef int int32_t;
typedef unsigned int uint32_t;
typedef long int64_t;
typedef unsigned long uint64_t;
typedef long intptr_t;
typedef unsigned long uintptr_t;
typedef long intmax_t;
typedef unsigned long uintmax_t;
typedef long int_fast32_t;
typedef unsigned long uint_fast32_t;
#define INT8_MIN (-128)
#define INT8_MAX 127
#define UINT8_MAX 255
#define INT16_MIN (-32768)
#define INT16_MAX 32767
#define UINT16_MAX 65535
#define INT32_MIN (-2147483647 - 1)
#define INT32_MAX 2147483647
#define UINT32_MAX 4294967295U
#define INT64_MIN (-9223372036854775807L - 1L)
#define INT64_MAX 9223372036854775807L
#define UINT64_MAX 18446744073709551615UL
#define SIZE_MAX 18446744073709551615UL
#define INTMAX_MAX 9223372036854775807L
#define UINTMAX_MAX 18446744073709551615UL
"

def inttypes : String := "#include <stdint.h>
#define PRId8 \"d\"
#define PRId16 \"d\"
#define PRId32 \"d\"
#define PRId64 \"ld\"
#define PRIi64 \"li\"
#define PRIu8 \"u\"
#define PRIu16 \"u\"
#define PRIu32 \"u\"
#define PRIu64 \"lu\"
#define PRIx32 \"x\"
#define PRIx64 \"lx\"
#define PRIX64 \"lX\"
#define PRIdMAX \"ld\"
#define PRIuMAX \"lu\"
"

def stdarg : String := "typedef char *va_list;
#define va_start(ap, ...) ((void)((ap) = __builtin_slots()))
#define va_end(ap) ((void)(ap))
#define va_copy(to, from) ((void)((to) = (from)))
#define va_arg(ap, type) (*(type *)(((ap) += 8) - 8))
"

def signal : String := "typedef void (*__sighandler_t)(int);
typedef int sig_atomic_t;
#define SIG_DFL ((__sighandler_t)0)
#define SIG_IGN ((__sighandler_t)1)
#define SIG_ERR ((__sighandler_t)-1)
#define SIGHUP 1
#define SIGINT 2
#define SIGQUIT 3
#define SIGILL 4
#define SIGTRAP 5
#define SIGABRT 6
#define SIGBUS 7
#define SIGFPE 8
#define SIGKILL 9
#define SIGUSR1 10
#define SIGSEGV 11
#define SIGUSR2 12
#define SIGPIPE 13
#define SIGALRM 14
#define SIGTERM 15
#define SIGCHLD 17
#define SIGCONT 18
#define SIGSTOP 19
#define SIGWINCH 28
extern int raise(int n);
extern int kill(int pid, int n);
extern __sighandler_t signal(int n, __sighandler_t handler);
"

def errno : String := "#define EPERM 1
#define ENOENT 2
#define EINTR 4
#define EIO 5
#define EBADF 9
#define ENOMEM 12
#define EACCES 13
#define EEXIST 17
#define ENOTDIR 20
#define EISDIR 21
#define EINVAL 22
#define ERANGE 34
extern int *__errno_location(void);
#define errno (*__errno_location())
"

def assertion : String := "extern void __assert_fail(const char *text, const char *file, unsigned int line,
  const char *function) __attribute__((noreturn));
#undef assert
#ifdef NDEBUG
#define assert(e) ((void)0)
#else
#define assert(e) ((e) ? (void)0 : __assert_fail(#e, __FILE__, __LINE__, __func__))
#endif
"

def time : String := basics ++ "typedef long time_t;
typedef long clock_t;
#define CLOCKS_PER_SEC 1000000L
extern time_t time(time_t *t);
extern clock_t clock(void);
extern double difftime(time_t a, time_t b);
"

def stdbool : String := "#define bool _Bool
#define true 1
#define false 0
#define __bool_true_false_are_defined 1
"

def float : String := "#define FLT_MAX 3.40282346638528859812e+38F
#define FLT_MIN 1.17549435082228750797e-38F
#define FLT_EPSILON 1.1920928955078125e-07F
#define DBL_MAX 1.79769313486231570815e+308
#define DBL_MIN 2.22507385850720138309e-308
#define DBL_EPSILON 2.22044604925031308085e-16
#define DBL_DIG 15
#define FLT_DIG 6
"

def stdalign : String := "#define alignas _Alignas
#define alignof _Alignof
"

def texts : List (String × String × Bool) := [
  ("stdio.h", stdio, false), ("stdlib.h", stdlib, false), ("string.h", string, false),
  ("strings.h", string, false), ("ctype.h", ctype, false), ("stddef.h", stddef, false),
  ("stdint.h", stdint, false), ("stdbool.h", stdbool, false), ("limits.h", limits, false),
  ("errno.h", errno, false), ("math.h", math, false), ("signal.h", signal, false),
  ("unistd.h", unistd, false), ("stdarg.h", stdarg, false), ("time.h", time, false),
  ("inttypes.h", inttypes, false), ("float.h", float, false), ("assert.h", assertion, true),
  ("stdalign.h", stdalign, false), ("stdnoreturn.h", "#define noreturn _Noreturn\n", false),
  ("sys/types.h", basics, false), ("iso646.h", "#define and &&\n#define or ||\n#define not !\n", false)]

def predefined : String := "#define __STDC__ 1
#define __STDC_VERSION__ 201710L
#define __STDC_HOSTED__ 1
#define __GNUC__ 13
#define __GNUC_MINOR__ 3
#define __x86_64__ 1
#define __x86_64 1
#define __amd64__ 1
#define __LP64__ 1
#define _LP64 1
#define __linux__ 1
#define __linux 1
#define linux 1
#define __gnu_linux__ 1
#define __unix__ 1
#define __unix 1
#define unix 1
#define __ELF__ 1
#define __PIC__ 2
#define __pic__ 2
#define __GLIBC__ 2
#define __CHAR_BIT__ 8
#define __INT_MAX__ 2147483647
#define __LONG_MAX__ 9223372036854775807L
#define __SIZEOF_INT__ 4
#define __SIZEOF_LONG__ 8
#define __SIZEOF_POINTER__ 8
#define __SIZE_TYPE__ unsigned long
#define __ORDER_LITTLE_ENDIAN__ 1234
#define __ORDER_BIG_ENDIAN__ 4321
#define __BYTE_ORDER__ __ORDER_LITTLE_ENDIAN__
#define __DATE__ \"Jan  1 2025\"
#define __TIME__ \"00:00:00\"
"

end Fragment.Program.Header
